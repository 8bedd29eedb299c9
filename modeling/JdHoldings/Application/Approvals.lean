import JdHoldings.Application.Runtime
import JdHoldings.Library.Calendar

/-!
# Approvals

The table `approvals` and the statements that write it.  A review or an execution is
approved for a signal, with a token of which only a hash is stored, and the approval is
consumed, cancelled or expired later on.

Every function is one `transaction()`.  What a transaction wrote before it raises is
rolled back (`inTransaction`).  Nothing deletes a row, so the autoincremented ids are the
positions in the table, counted from one.
-/

namespace JdHoldings

/-! ## Rows -/

/-- `ApprovalStage`. -/
inductive ApprovalStage where
  | review
  | execution
deriving DecidableEq, Repr

def ApprovalStage.text : ApprovalStage → String
  | .review => "REVIEW"
  | .execution => "EXECUTION"

/-- The texts written into `approvals.status`. -/
inductive ApprovalStatus where
  | active
  | used
  | expired
  | canceled
deriving DecidableEq, Repr

/-- The conditions an execution was approved under. -/
structure ApprovalPayload where
  currentPrice : Decimal
  executionCeiling : Decimal
  limitPrice : Decimal
  quantity : ℕ
  session : String
deriving DecidableEq, Repr

/-- A row of `approvals`, with the hash `δ` of its token. -/
structure Approval (δ : Type) where
  signalId : SignalId
  tokenHash : δ
  stage : ApprovalStage
  status : ApprovalStatus := .active
  payload : Option ApprovalPayload := none
  expiresAt : Utc
  createdAt : Utc
  usedAt : Option Utc := none

/-- The texts of `cash_release_intents.status`. -/
inductive CashReleaseStatus where
  | waitingSgovFill
  | awaitingExecution
  | completed
  | canceled
  | expired
deriving DecidableEq, Repr

/-- A row of `cash_release_intents`. -/
structure CashReleaseIntent where
  status : CashReleaseStatus := .waitingSgovFill
  executionApprovalId : Option ℕ := none
  expiresAt : Utc

structure ApprovalStore (δ : Type) where
  approvals : List (Approval δ) := []
  /-- The rows of `signals`. -/
  signals : SignalId → Option SignalStatus := fun _ => none
  intents : SignalId → Option CashReleaseIntent := fun _ => none

/-- The part of the configuration that limits tokens. -/
structure TokenConfig where
  reviewTokenTtlMinutes : ℕ
  executionTokenTtlSeconds : ℕ

/-- Why `consume_approval` raises an `ApprovalError`. -/
inductive ApprovalRefusal where
  | notFound
  | notActive
  | wrongStage
  | expired (stage : ApprovalStage)
  | wrongToken
deriving DecidableEq, Repr

def TokenConfig.ttlLabel (config : TokenConfig) : ApprovalStage → String
  | .execution => s!"{config.executionTokenTtlSeconds}초"
  | .review => s!"{config.reviewTokenTtlMinutes}분"

def ApprovalRefusal.message (config : TokenConfig) : ApprovalRefusal → String
  | .notFound => "승인 요청을 찾을 수 없습니다"
  | .notActive => "이미 사용되었거나 취소된 승인입니다"
  | .wrongStage => "승인 단계가 일치하지 않습니다"
  | .expired stage =>
      s!"{stage.text} 승인 유효시간({config.ttlLabel stage})이 만료되었습니다. " ++
        "최신 조건으로 다시 확인해 주세요."
  | .wrongToken => "승인 토큰이 올바르지 않습니다"

namespace ApprovalStore

variable {δ : Type}

/-- `SELECT * FROM approvals WHERE approval_id = ?`. -/
def approval? (store : ApprovalStore δ) : ℕ → Option (Approval δ)
  | 0 => none
  | position + 1 => store.approvals[position]?

/-- `UPDATE approvals SET … WHERE approval_id = ?`. -/
def updateApproval (store : ApprovalStore δ) (approvalId : ℕ) (set : Approval δ → Approval δ) :
    ApprovalStore δ :=
  match approvalId with
  | 0 => store
  | position + 1 => { store with approvals := store.approvals.modify position set }

/-- `UPDATE approvals SET status = ? WHERE … AND status = 'ACTIVE'`. -/
def retire (store : ApprovalStore δ) (status : ApprovalStatus) (which : Approval δ → Bool) :
    ApprovalStore δ :=
  { store with
    approvals := store.approvals.map fun row =>
      if which row && decide (row.status = .active) then { row with status := status } else row }

/-! ## Transactions -/

/-- `create_approval`: the id of the new row.  The signal is a foreign key. -/
def createApproval (hash : String → δ) (signalId : SignalId) (stage : ApprovalStage)
    (payload : Option ApprovalPayload) (token : String) (now expiresAt : Utc)
    (store : ApprovalStore δ) : ApprovalStore δ × Py ℕ :=
  if store.signals signalId = none then (store, .error .integrity)
  else
    ({ store with
      approvals := store.approvals ++ [{
        signalId := signalId
        tokenHash := hash token
        stage := stage
        payload := payload
        expiresAt := expiresAt
        createdAt := now }] }, .ok (store.approvals.length + 1))

/-- The body of `consume_approval`. -/
def consumeBody [DecidableEq δ] (hash : String → δ) (approvalId : ℕ) (token : String)
    (expectedStage : ApprovalStage) (now : Utc) (store : ApprovalStore δ) :
    ApprovalStore δ × Except ApprovalRefusal (SignalId × Option ApprovalPayload) :=
  match store.approval? approvalId with
  | none => (store, .error .notFound)
  | some row =>
      if row.status ≠ .active then (store, .error .notActive)
      else if row.stage ≠ expectedStage then (store, .error .wrongStage)
      else if row.expiresAt < now then
        (store.updateApproval approvalId fun row => { row with status := .expired },
          .error (.expired expectedStage))
      else if row.tokenHash ≠ hash token then (store, .error .wrongToken)
      else
        (store.updateApproval approvalId fun row =>
          { row with status := .used, usedAt := some now }, .ok (row.signalId, row.payload))

/-- `consume_approval`. -/
def consumeApproval [DecidableEq δ] (hash : String → δ) (approvalId : ℕ) (token : String)
    (expectedStage : ApprovalStage) (now : Utc) :
    ApprovalStore δ → ApprovalStore δ × Except ApprovalRefusal (SignalId × Option ApprovalPayload) :=
  inTransaction (consumeBody hash approvalId token expectedStage now)

/-- `cancel_approval`, without the number of cancelled rows: every active approval of the
signal. -/
def cancelApproval (approvalId : ℕ) (store : ApprovalStore δ) :
    ApprovalStore δ × Except ApprovalRefusal SignalId :=
  match store.approval? approvalId with
  | none => (store, .error .notFound)
  | some row =>
      (store.retire .canceled fun other => decide (other.signalId = row.signalId),
        .ok row.signalId)

/-- The statuses `halt()` and the sweep treat as open. -/
def isOpenIntent (status : CashReleaseStatus) : Bool :=
  status = .waitingSgovFill || status = .awaitingExecution

/-- The transaction of `halt()`. -/
def haltTransaction (store : ApprovalStore δ) : ApprovalStore δ :=
  let store := store.retire .canceled fun _ => true
  { store with
    intents := fun signalId => (store.intents signalId).map fun intent =>
      if isOpenIntent intent.status then { intent with status := .canceled } else intent }

/-- Whether a reactivation finds the signal in need of it. -/
def reactivates (status : SignalStatus) : Bool := !decide (status = .active) && !decide (status = .unknown)

/-- The branch of the core signal upsert that reactivates an existing signal. -/
def reactivateSignal (signalId : SignalId) (store : ApprovalStore δ) : ApprovalStore δ :=
  match store.signals signalId with
  | none => store
  | some status =>
      if reactivates status then
        let store := store.retire .canceled fun row => decide (row.signalId = signalId)
        { store with signals := Function.update store.signals signalId (some .active) }
      else store

/-- One row of `cash_release_intents` in the sweep, after the approvals are swept. -/
def sweptIntent (store : ApprovalStore δ) (current : Utc) (intent : CashReleaseIntent) :
    CashReleaseIntent :=
  let orphaned := intent.status = .awaitingExecution ∧
    ∃ row ∈ (intent.executionApprovalId.bind store.approval?).toList, row.status ≠ .active
  let intent := if orphaned then { intent with status := .canceled } else intent
  if isOpenIntent intent.status && decide (intent.expiresAt.isoformat < current.isoformat) then
    { intent with status := .expired }
  else intent

/-- `pending_cash_release_intents`, the sweep. -/
def sweep (current : Utc) (store : ApprovalStore δ) : ApprovalStore δ :=
  let store := store.retire .expired fun row => decide (row.expiresAt.isoformat < current.isoformat)
  { store with
    intents := fun signalId => (store.intents signalId).map (store.sweptIntent current) }

end ApprovalStore

end JdHoldings

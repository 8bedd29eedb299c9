import JdHoldings.Orders.BuyBoundary

/-!
# What a submission has read

The last checks of a BUY stand in the same `try` as the POST, and they end in two ways.

* The halt and SAFE_MODE are stored as REJECTED before they raise, and the handler
  leaves a REJECTED row alone.
* The live contract, and a halt key that is not there, raise at once.  The handler
  cannot tell this from a lost answer.

`submitObserved` is `submit` with what the locked section has read as part of the
result, so that the second kind can be told from the first.  It is `submit` otherwise
(`submit_eq`).
-/

namespace JdHoldings

open OrderManager

/-! ## What a section reads -/

/-- What the locked section of a BUY reads before it acts. -/
inductive BoundaryReads where
  /-- The halt or SAFE_MODE is on; the text is the error the section raises. -/
  | stopped (message : String)
  | contract (safeMode : SafeModeView) (view : GuardView) (regularSession : Bool)

/-- The section does not raise before it places or rejects the order. -/
def BoundaryReads.Passes : Py BoundaryReads → Prop
  | .error _ => False
  | .ok (.stopped _) => True
  | .ok (.contract _ view regularSession) =>
      view.requireLiveAutoBuyContract true regularSession = .ok ()

/-- A submission and what its section has read, if there was one. -/
structure SubmitObservation (ι : Type) where
  reads : Option (Py BoundaryReads)
  outcome : Py (OrderReceipt ι)

section Observation

variable {τ ι : Type} [DecidableEq ι]

/-- The reads of `placeBuy`. -/
def readBoundary (symbol : Symbol) : Action τ ι BoundaryReads := do
  let halted ← buyIsHalted
  if halted then return .stopped "운영자 긴급정지가 활성화되어 BUY 제출을 중단했습니다"
  else
    let safeMode ← readSafeMode symbol
    if safeMode.blocked then return .stopped "SAFE_MODE가 활성화되어 BUY 제출을 중단했습니다"
    else
      let view ← readGuardView
      let regularSession ← Proc.ask Query.regularSession
      return .contract safeMode view regularSession

/-- What `placeBuy` does with its reads. -/
def actOn (self : τ) (request : OrderRequest ι) : BoundaryReads → Action τ ι (OrderReceipt ι)
  | .stopped message => rejectAtBoundary request.clientOrderId message
  | .contract safeMode view regularSession => do
      Proc.ofExcept (view.requireLiveAutoBuyContract true regularSession)
      brokerPlaceOrder self request (some { autoState := view.autoState, safeMode := safeMode })

/-- What `submit` does with the end of the submission. -/
def settle (request : OrderRequest ι) (placed : Py (OrderReceipt ι)) :
    Action τ ι (OrderReceipt ι) := do
  let receipt ← tryCatchThe PyError
    (do
      let receipt ← Proc.ofExcept placed
      Proc.ofExcept (validateReceipt receipt request.clientOrderId request.symbol request.side
        request.quantity)
      return receipt)
    (recordFailure request)
  updateOrder request.clientOrderId receipt.toUpdate
  return receipt

/-- `submit` up to the reservation: the order to be placed, or the receipt of a row that
is there already. -/
def prepare (config : StrategyConfig) (settings : RuntimeSettings) (self : τ)
    (request : OrderRequest ι) : Action τ ι (OrderRequest ι ⊕ OrderReceipt ι) := do
  let request ← Proc.ofExcept (normalizeSellLimitRequest request)
  match ← readRepo fun repo => repo.getOrderByClientId request.clientOrderId with
  | some existing => do
      let receipt ← submitExisting request existing
      return .inr receipt
  | none => do
      reserve config settings self request
      return .inl request

/-- `place`, observed. -/
def placeObserved (self : τ) (request : OrderRequest ι) :
    Prog (World τ ι) (Query ι) Answer (SubmitObservation ι) :=
  match request.side with
  | .sell => Prog.bind (place self request) fun outcome => .done ⟨none, outcome⟩
  | .buy => .acquire <| Prog.bind (readBoundary request.symbol) fun reads =>
      Prog.bind (Proc.ofExcept reads >>= actOn self request : Action τ ι (OrderReceipt ι))
        fun placed => .release <|
          Prog.bind (settle request placed) fun outcome => .done ⟨some reads, outcome⟩

/-- `submit`, observed. -/
def submitObserved (config : StrategyConfig) (settings : RuntimeSettings) (self : τ)
    (request : OrderRequest ι) : Prog (World τ ι) (Query ι) Answer (SubmitObservation ι) :=
  Prog.bind (prepare config settings self request) fun
    | .error error => .done ⟨none, .error error⟩
    | .ok (.inr receipt) => .done ⟨none, .ok receipt⟩
    | .ok (.inl request) => placeObserved self request

theorem placeBuy_eq (self : τ) (request : OrderRequest ι) :
    placeBuy self request = readBoundary request.symbol >>= actOn self request := by
  unfold placeBuy readBoundary
  rw [Proc.bind_assoc]
  refine congrArg (buyIsHalted >>= ·) (funext fun halted => ?_)
  cases halted with
  | true => rfl
  | false =>
      simp only [Bool.false_eq_true, if_false]
      rw [Proc.bind_assoc]
      refine congrArg (readSafeMode request.symbol >>= ·) (funext fun safeMode => ?_)
      cases safeMode.blocked with
      | true => rfl
      | false =>
          simp only [Bool.false_eq_true, if_false, requireLiveAutoContract]
          rw [Proc.bind_assoc, Proc.bind_assoc]
          refine congrArg (readGuardView >>= ·) (funext fun view => ?_)
          rw [Proc.bind_assoc, Proc.bind_assoc]
          refine congrArg (Proc.ask _ >>= ·) (funext fun regularSession => ?_)
          exact Proc.bind_assoc _ _ _

/-- The end of the submission and what is done with it, in sequence. -/
theorem place_eq (self : τ) (request : OrderRequest ι) :
    place self request = Prog.bind (placeSide self request) (settle request) := by
  unfold place settle placeAndValidate
  refine Eq.trans (Prog.bind_assoc _ _ _) ((Prog.bind_assoc _ _ _).trans ?_)
  refine congrArg (Prog.bind (placeSide self request)) (funext fun placed => ?_)
  cases placed with
  | error error => rfl
  | ok receipt =>
      simp only [bind, Proc.bind, Proc.ofExcept, Prog.bind, tryCatchThe, MonadExceptOf.tryCatch,
        Proc.tryCatch]
      cases validateReceipt receipt request.clientOrderId request.symbol request.side
        request.quantity <;> rfl

omit [DecidableEq ι] in
/-- The observation of a program does not change its result. -/
theorem observed_outcome (p : Action τ ι (OrderReceipt ι)) (reads : Option (Py BoundaryReads)) :
    (Prog.bind (Prog.bind p fun outcome => .done (SubmitObservation.mk reads outcome))
      fun observed => .done observed.outcome) = p :=
  (Prog.bind_assoc _ _ _).trans (Prog.bind_done p)

theorem placeObserved_eq (self : τ) (request : OrderRequest ι) :
    (Prog.bind (placeObserved self request) fun observed => .done observed.outcome) =
      place self request := by
  unfold placeObserved
  cases hside : request.side with
  | sell => exact observed_outcome _ none
  | buy =>
      rw [place_eq]
      unfold placeSide
      rw [hside, placeBuy_eq]
      refine congrArg Prog.acquire ?_
      refine (Prog.bind_assoc _ _ _).trans (Eq.trans ?_ (Prog.bind_assoc _ _ _).symm)
      refine Eq.trans ?_ (Prog.bind_assoc (readBoundary request.symbol) _ _).symm
      refine congrArg (Prog.bind (readBoundary request.symbol)) (funext fun reads => ?_)
      refine (Prog.bind_assoc _ _ _).trans ?_
      cases reads with
      | error error => exact congrArg Prog.release (observed_outcome _ _)
      | ok reads =>
          refine congrArg (Prog.bind (actOn self request reads)) (funext fun placed => ?_)
          exact congrArg Prog.release (observed_outcome _ _)

/-- `submit` is its observed version without the observation. -/
theorem submit_eq (config : StrategyConfig) (settings : RuntimeSettings) (self : τ)
    (request : OrderRequest ι) :
    submit config settings self request =
      Prog.bind (submitObserved config settings self request) fun observed =>
        .done observed.outcome := by
  have hobserved : (Prog.bind (submitObserved config settings self request) fun observed =>
      .done observed.outcome) = (prepare config settings self request >>= fun
        | .inl request => place self request
        | .inr receipt => return receipt) := by
    refine (Prog.bind_assoc _ _ _).trans ?_
    refine congrArg (Prog.bind (prepare config settings self request)) (funext fun prepared => ?_)
    rcases prepared with error | request | receipt
    · rfl
    · exact placeObserved_eq self request
    · rfl
  rw [hobserved, prepare, Proc.bind_assoc]
  refine congrArg (Proc.ofExcept _ >>= ·) (funext fun request => ?_)
  rw [Proc.bind_assoc]
  refine congrArg (readRepo _ >>= ·) (funext fun found => ?_)
  cases found with
  | some existing =>
      simp only
      rw [Proc.bind_assoc]
      exact (Proc.bind_pure _).symm
  | none =>
      simp only
      rw [Proc.bind_assoc]
      rfl

end Observation

end JdHoldings

import JdHoldings.Application.OrderMonitor
import JdHoldings.Orders.Submit

/-!
# The law of an order row

An order row is written by `submit`, `refresh_order` and the reconciliation, and the
monitor writes it through `refresh_order`.

* `OrderStep` is one transaction of one of them, with whatever the broker answers.  A
  step of `submit` may be taken among steps of everything else, so the runs are all
  interleavings.
* No step takes a fill back or leaves a terminal status (`Repository.RowsKept`); that a
  row has filled at most its quantity is part of the row.
* Neither validation compares the status with the quantity.  A row says FILLED before all
  of it is filled exactly through an answer of the broker that says so
  (`OrderStep.filledInFull`).
-/

namespace JdHoldings

variable {ι : Type}

/-- What `receipt_from_order` makes of the order is FILLED with all of its shares or not
FILLED. -/
def BrokerOrder.FilledInFull (order : BrokerOrder ι) : Prop :=
  ∀ clientOrderId receipt, receiptFromOrder order clientOrderId = .ok receipt →
    receipt.status.upper? = some .filled → receipt.filledQuantity = receipt.quantity

/-- The answers of `get_order` are of the kind `reports`, all others are free. -/
def Reported (reports : BrokerOrder ι → Prop) : (query : Query ι) → Answer query → Prop
  | .getOrder _, answer => ∀ order, answer = .ok order → reports order
  | _, _ => True

variable [DecidableEq ι]

/-! ## Writes -/

/-- Rows stay, with their quantity; fills are not taken back, and a terminal status
stays. -/
def Repository.RowsKept (repo repo' : Repository ι) : Prop :=
  ∀ clientOrderId row, repo.orders.get? clientOrderId = some row →
    ∃ row', repo'.orders.get? clientOrderId = some row' ∧ row'.qty = row.qty ∧
      row.filledQty ≤ row'.filledQty ∧
      (row.status.isTerminal = true → row'.status = row.status)

/-- A row that says FILLED is filled. -/
def Repository.FilledInFull (repo : Repository ι) : Prop :=
  ∀ row ∈ repo.orders, row.status = .filled → row.filledQty = row.qty

/-- What a transaction can do to the table of orders.  Where the run is `complete`, it
stores FILLED with the whole quantity only. -/
inductive OrderWrite (complete : Prop) (repo repo' : Repository ι) : Prop
  | unchanged (same : repo'.orders = repo.orders)
  | reserved (request : OrderRequest ι) (now : Timestamp)
      (fresh : repo.orders.get? request.clientOrderId = none)
      (inserted : repo'.orders = (repo.orders.insertOrIgnore (request.newRow now)).1)
  | updated {existing row : OrderRow ι} {status : OrderStatus} {update : OrderUpdate}
      (found : repo.orders.get? row.clientOrderId = some existing)
      (updated : existing.Updated row status update)
      (replaced : repo'.orders = repo.orders.replace row)
      (filled : complete → status = .filled → row.filledQty = row.qty)

theorem Repository.RowsKept.refl (repo : Repository ι) : repo.RowsKept repo :=
  fun _ row hget => ⟨row, hget, rfl, le_refl _, fun _ => rfl⟩

theorem Repository.RowsKept.trans {repo repo' repo'' : Repository ι} (hfirst : repo.RowsKept repo')
    (hsecond : repo'.RowsKept repo'') : repo.RowsKept repo'' := by
  intro clientOrderId row hget
  obtain ⟨row', hget', hqty, hfilled, hterminal⟩ := hfirst clientOrderId row hget
  obtain ⟨row'', hget'', hqty', hfilled', hterminal'⟩ := hsecond clientOrderId row' hget'
  refine ⟨row'', hget'', hqty'.trans hqty, hfilled.trans hfilled', fun hclosed => ?_⟩
  have hsame := hterminal hclosed
  exact (hterminal' (hsame ▸ hclosed)).trans hsame

namespace OrderWrite

variable {complete : Prop} {repo repo' : Repository ι}

/-- Whatever is written keeps the rows. -/
theorem rowsKept (hwrite : OrderWrite complete repo repo') : repo.RowsKept repo' := by
  intro clientOrderId row hget
  cases hwrite with
  | unchanged hsame => exact ⟨row, hsame ▸ hget, rfl, le_refl _, fun _ => rfl⟩
  | reserved request now hfresh hinserted =>
      have hne : clientOrderId ≠ (request.newRow now).clientOrderId := by
        rintro rfl
        cases hfresh.symm.trans hget
      refine ⟨row, ?_, rfl, le_refl _, fun _ => rfl⟩
      rw [hinserted]
      exact (Table.get?_insertOrIgnore_of_ne hne).trans hget
  | @updated existing row' _ _ hfound hupdated hreplaced =>
      rw [hreplaced]
      by_cases hsame : clientOrderId = row'.clientOrderId
      · subst hsame
        obtain rfl : existing = row := Option.some.inj (hfound.symm.trans hget)
        exact ⟨row', Table.get?_replace_self hfound, hupdated.qty, hupdated.filled_mono,
          hupdated.terminal⟩
      · exact ⟨row, (Table.get?_replace_of_ne hsame).trans hget, rfl, le_refl _, fun _ => rfl⟩

/-- A complete run keeps FILLED rows filled. -/
theorem filledInFull (hwrite : OrderWrite complete repo repo') (hcomplete : complete)
    (hfull : repo.FilledInFull) : repo'.FilledInFull := by
  intro row hrow hstatus
  cases hwrite with
  | unchanged hsame =>
      rw [hsame] at hrow
      exact hfull row hrow hstatus
  | reserved request now hfresh hinserted =>
      rw [hinserted] at hrow
      have hnew : repo.orders.get? (request.newRow now).clientOrderId = none := hfresh
      rcases (Table.mem_insertOrIgnore hnew).mp hrow with hold | rfl
      · exact hfull row hold hstatus
      · cases hstatus
  | updated _ hupdated hreplaced hfilled =>
      rw [hreplaced] at hrow
      rcases Table.mem_replace hrow with rfl | ⟨hold, -⟩
      · exact hfilled hcomplete (hupdated.status.symm.trans hstatus)
      · exact hfull row hold hstatus

/-- `update_order`, when a FILLED it stores comes with the whole quantity. -/
theorem of_updateOrder {clientOrderId : ι} {update : OrderUpdate}
    (hok : repo.updateOrder clientOrderId update = .ok repo')
    (hfilled : complete → update.status.upper? = some .filled → ∀ existing,
      repo.orders.get? clientOrderId = some existing → update.filledQty = some existing.qty) :
    OrderWrite complete repo repo' := by
  obtain ⟨existing, row, status, hget, hstatus, hupdated, rfl⟩ :=
    Repository.updateOrder_ok_of_status hok
  have hkey := hupdated.clientOrderId.trans (Table.key_of_get? hget)
  refine .updated (hkey ▸ hget) hupdated rfl fun hcomplete hterminal => ?_
  have hqty := hfilled hcomplete (hterminal ▸ hstatus) existing hget
  rw [hupdated.filledQty, hqty, hupdated.qty]
  rfl

/-- Nothing but the table of orders matters. -/
theorem congr {repo'' : Repository ι} (hwrite : OrderWrite complete repo repo')
    (horders : repo''.orders = repo'.orders) : OrderWrite complete repo repo'' := by
  cases hwrite with
  | unchanged hsame => exact .unchanged (horders.trans hsame)
  | reserved request now hfresh hinserted =>
      exact .reserved request now hfresh (horders.trans hinserted)
  | updated hfound hupdated hreplaced hfilled =>
      exact .updated hfound hupdated (horders.trans hreplaced) hfilled

/-- A mark without a quantity. -/
theorem of_mark {clientOrderId : ι} {status : OrderStatus}
    (hok : repo.updateOrder clientOrderId { status := .exact status } = .ok repo')
    (hstatus : status ≠ .filled) : OrderWrite complete repo repo' :=
  of_updateOrder hok fun _ hfilled => absurd (Option.some.inj hfilled) hstatus

end OrderWrite

/-! ## Receipts -/

/-- What `_validate_receipt` says of the quantities. -/
theorem validateReceipt_quantities {receipt : OrderReceipt ι} {clientOrderId : ι} {symbol : Symbol}
    {side : Side} {quantity : ℕ} {u : Unit}
    (hok : validateReceipt receipt clientOrderId symbol side quantity = .ok u) :
    receipt.quantity = quantity ∧ 0 ≤ receipt.filledQuantity := by
  refine ⟨?_, validateReceipt_nonneg hok⟩
  simp only [validateReceipt, Except.bind_eq_ok, raiseIf_eq_ok] at hok
  obtain ⟨-, -, -, -, -, -, -, hquantity, -⟩ := hok
  exact not_not.mp hquantity

theorem validateCoreReceipt_quantities {receipt : OrderReceipt ι} {row : OrderRow ι} {u : Unit}
    (hok : validateCoreReceipt receipt row = .ok u) :
    receipt.quantity = row.qty ∧ 0 ≤ receipt.filledQuantity := by
  simp only [validateCoreReceipt, Except.bind_eq_ok, raiseIf_eq_ok] at hok
  obtain ⟨-, -, -, -, -, -, -, hquantity, -, hfilled, -⟩ := hok
  exact ⟨not_not.mp hquantity, (not_not.mp hfilled).1⟩

/-! ## The refreshes -/

section Refreshes

variable {reports : BrokerOrder ι → Prop} {complete : Prop}

omit [DecidableEq ι] in
/-- A validated receipt of a reported order is FILLED with the quantity of the row. -/
private theorem filledQty_of_receipt {order : BrokerOrder ι} {clientOrderId : ι}
    {receipt : OrderReceipt ι} {quantity : ℕ} (hfull : order.FilledInFull)
    (hreceipt : receiptFromOrder order clientOrderId = .ok receipt)
    (hvalid : receipt.quantity = quantity ∧ 0 ≤ receipt.filledQuantity)
    (hstatus : receipt.status.upper? = some .filled) :
    receipt.filledQuantity.toNat = quantity := by
  have hall := hfull clientOrderId receipt hreceipt hstatus
  have hquantity := hvalid.1
  omega

/-- `refresh_order` is one write. -/
theorem OrderManager.refreshOrder_write {answer : Py (BrokerOrder ι)} {repo : Repository ι}
    {clientOrderId : ι}
    (hreported : ∀ order, answer = .ok order → complete → order.FilledInFull) :
    OrderWrite complete repo (OrderManager.refreshOrder answer repo clientOrderId).1 := by
  unfold OrderManager.refreshOrder
  split
  · exact .unchanged rfl
  · rename_i row hrow
    split
    · exact .unchanged rfl
    · split
      · exact .unchanged rfl
      · rename_i receipt hreceipt
        split
        · split
          · exact .unchanged rfl
          · rename_i marked hmarked
            exact .of_mark hmarked (by decide)
        · rename_i hvalid
          split
          · exact .unchanged rfl
          · rename_i stored hstored
            refine .of_updateOrder hstored fun hcomplete hstatus existing hexisting => ?_
            obtain rfl : row = existing := Option.some.inj (hrow.symm.trans hexisting)
            simp only [OrderRow.receiptOf, Except.bind_eq_ok] at hreceipt
            obtain ⟨order, horder, hreceipt⟩ := hreceipt
            exact congrArg some (filledQty_of_receipt (hreported order horder hcomplete) hreceipt
              (validateReceipt_quantities hvalid) hstatus)

/-- The refresh of the reconciliation is one write and a booking. -/
theorem ReconciliationService.refreshCoreOrder_write {reads : BrokerReads ι}
    {repo : Repository ι} {row : OrderRow ι} {brokerOrderId : BrokerOrderId}
    (hreported : ∀ order, reads.getOrder brokerOrderId = .ok order → complete →
      order.FilledInFull)
    (hknown : ∀ stored, repo.orders.get? row.clientOrderId = some stored → stored.qty = row.qty) :
    OrderWrite complete repo
      (ReconciliationService.refreshCoreOrder reads repo row brokerOrderId).1 := by
  have hwrite : ∀ {receipt : OrderReceipt ι} {stored : Repository ι},
      ReconciliationService.fetchCoreReceipt reads row brokerOrderId = .ok receipt →
      repo.updateOrder row.clientOrderId receipt.toUpdate = .ok stored →
        OrderWrite complete repo stored := by
    intro receipt stored hfetch hstored
    refine .of_updateOrder hstored fun hcomplete hstatus existing hexisting => ?_
    simp only [ReconciliationService.fetchCoreReceipt, Except.bind_eq_ok] at hfetch
    obtain ⟨order, horder, receipt', hreceipt, _, hvalid, hsame⟩ := hfetch
    obtain rfl : receipt' = receipt := Except.ok.inj hsame
    rw [hknown existing hexisting]
    exact congrArg some (filledQty_of_receipt (hreported order horder hcomplete) hreceipt
      (validateCoreReceipt_quantities hvalid) hstatus)
  unfold ReconciliationService.refreshCoreOrder
  split
  · exact .unchanged rfl
  · rename_i receipt hfetch
    split
    · exact .unchanged rfl
    · rename_i stored hstored
      have hstep := hwrite hfetch hstored
      split
      · split
        · exact hstep
        · rename_i booked hbooked
          exact hstep.congr (Repository.applyCoreFill_orders hbooked)
      · exact hstep

end Refreshes

/-! ## Submitting -/

section Submit

open OrderManager

variable {τ α : Type} {reports : BrokerOrder ι → Prop} {complete : Prop} {clientOrderId : ι}
  {quantity : ℕ} {self : τ}

/-- A step that, taken where the row under the id has the quantity of the request, is a
write. -/
def SubmitWrite (complete : Prop) (clientOrderId : ι) (quantity : ℕ)
    (update : World τ ι → World τ ι) : Prop :=
  ∀ world : World τ ι,
    (complete → ∀ row, world.repo.orders.get? clientOrderId = some row → row.qty = quantity) →
      OrderWrite complete world.repo (update world).repo

theorem submitWrite_id : SubmitWrite complete clientOrderId quantity (id : World τ ι → _) :=
  fun _ _ => .unchanged rfl

private theorem every_quiet {answers : (query : Query ι) → Answer query → Prop}
    {p : Action τ ι α} (hquiet : Proc.Quiet p) :
    Proc.Every answers (SubmitWrite complete clientOrderId quantity) (fun _ => True) p :=
  .of_quiet submitWrite_id hquiet

private theorem every_record {answers : (query : Query ι) → Answer query → Prop}
    (event : Event τ ι) :
    Proc.Every answers (SubmitWrite complete clientOrderId quantity) (fun _ => True)
      (record event) :=
  .of_atoms (.modify fun _ _ => .unchanged rfl)

/-- An update of the row of the request. -/
private theorem every_updateOrder {answers : (query : Query ι) → Answer query → Prop}
    {update : OrderUpdate}
    (hfilled : complete → update.status.upper? = some .filled → update.filledQty = some quantity) :
    Proc.Every answers (SubmitWrite complete clientOrderId quantity) (fun _ => True)
      (updateOrder clientOrderId update : Action τ ι Unit) := by
  refine .transaction fun world hown => ?_
  cases hok : world.repo.updateOrder clientOrderId update with
  | error error =>
      rw [Proc.committed_error (by simp only [hok]; rfl)]
      exact .unchanged rfl
  | ok repo' =>
      rw [Proc.committed_ok (by simp only [hok]; rfl)]
      refine .of_updateOrder hok fun hcomplete hstatus existing hexisting => ?_
      rw [hown hcomplete existing hexisting]
      exact hfilled hcomplete hstatus

private theorem every_sessionRequest {answers : (query : Query ι) → Answer query → Prop}
    (method : HttpMethod) (path : ApiRequest ι) :
    Proc.Every answers (SubmitWrite complete clientOrderId quantity) (fun _ => True)
      (TossClient.sessionRequest self method path) := by
  refine .bind (every_quiet (quiet_authenticate false)) fun _ _ => ?_
  refine .bind (every_record _) fun _ _ => .bind (every_quiet (.ask _)) fun outcome _ => ?_
  refine .bind (every_record _) fun _ _ => every_quiet ?_
  cases outcome <;> trivial

private theorem every_request {answers : (query : Query ι) → Answer query → Prop}
    (method : HttpMethod) (path : ApiRequest ι) (retries : ℕ) :
    Proc.Every answers (SubmitWrite complete clientOrderId quantity) (fun _ => True)
      (TossClient.request self method path retries) := by
  induction retries with
  | zero =>
      exact .bind (every_sessionRequest method path) fun _ _ => every_quiet (.ofExcept _)
  | succ retries ih =>
      refine .bind (every_sessionRequest method path) fun response _ => ?_
      refine .ite (fun _ => ?_) fun _ => every_quiet (.ofExcept _)
      refine .bind (every_quiet quiet_refreshToken) fun refreshed _ => ?_
      exact .ite (fun _ => ih) fun _ => every_quiet (.raise _)

omit [DecidableEq ι] in
/-- The answer to an order-creating POST is stored as SUBMITTED. -/
theorem placedReceipt_status {request : OrderRequest ι} {result : JsonResult ι}
    {receipt : OrderReceipt ι} (hok : TossClient.placedReceipt request result = .ok receipt) :
    receipt.status = .exact .submitted := by
  cases result with
  | missing => cases hok
  | notObject => cases hok
  | object order =>
      simp only [TossClient.placedReceipt] at hok
      split at hok
      · cases hok
      · rw [← Except.ok.inj hok]
      · rw [← Except.ok.inj hok]
      · rw [← Except.ok.inj hok]

private theorem every_placeOrder {answers : (query : Query ι) → Answer query → Prop}
    (order : OrderRequest ι) :
    Proc.Every answers (SubmitWrite complete clientOrderId quantity)
      (fun receipt => receipt.status = .exact .submitted) (TossClient.placeOrder self order) := by
  refine .bind (every_quiet (.ofExcept _)) fun _ _ => .bind (every_request _ _ 1) fun result _ => ?_
  exact .ofExcept fun receipt hok => placedReceipt_status hok

/-! ### The parts of `submit` -/

/-- What a receipt that is to be stored says. -/
def StoredInFull (complete : Prop) (quantity : ℕ) (receipt : OrderReceipt ι) : Prop :=
  complete → receipt.status.upper? = some .filled →
    receipt.toUpdate.filledQty = some quantity

variable {answers : (query : Query ι) → Answer query → Prop} {request : OrderRequest ι}

private theorem every_reserveRow {f : Repository ι → Py (Repository ι × Bool)}
    (hf : ∀ repo result, f repo = .ok result → ∃ request now, result = repo.reserveOrder request now) :
    Proc.Every answers (SubmitWrite complete clientOrderId quantity) (fun _ => True)
      (reserveRow self request.clientOrderId f) := by
  refine .transaction fun world _ => ?_
  cases hok : f world.repo with
  | error error =>
      rw [Proc.committed_error (by simp only [hok]; rfl)]
      exact .unchanged rfl
  | ok result =>
      rw [Proc.committed_ok (by simp only [hok]; rfl)]
      obtain ⟨inserted, now, rfl⟩ := hf world.repo result hok
      cases hget : world.repo.orders.get? inserted.clientOrderId with
      | none => exact .reserved inserted now hget rfl
      | some old =>
          refine .unchanged ?_
          have hignore : world.repo.orders.insertOrIgnore (inserted.newRow now)
              = (world.repo.orders, false) := Table.insertOrIgnore_of_some hget
          exact congrArg Prod.fst hignore

private theorem every_reserveSide (config : StrategyConfig) :
    Proc.Every answers (SubmitWrite complete clientOrderId quantity) (fun _ => True)
      (reserveSide config self request) := by
  unfold reserveSide
  split
  · refine .bind (every_quiet quiet_buyIsHalted) fun _ _ => ?_
    refine .bind (every_quiet (.raiseIf _ _)) fun _ _ => ?_
    refine .bind (every_quiet (quiet_readSafeMode _)) fun _ _ => ?_
    refine .bind (every_quiet (.raiseIf _ _)) fun _ _ => ?_
    refine .bind (every_quiet (quiet_requireLiveAutoContract _)) fun _ _ => ?_
    split
    · exact .raise _
    · refine .bind (every_quiet quiet_getBuyingPower) fun _ _ => ?_
      refine .bind (every_quiet (.ask _)) fun now _ => every_reserveRow ?_
      intro repo result hok
      exact ⟨_, _, (Repository.reserveBuyOrderWithManagedCash_ok hok).2⟩
  · refine .bind (every_quiet (.ask _)) fun now _ => every_reserveRow ?_
    intro repo result hok
    exact ⟨_, _, (Except.ok.inj hok).symm⟩

/-- The refresh of an existing row. -/
private theorem every_submitExisting (hreports : ∀ order, reports order → complete →
    order.FilledInFull) (existing : OrderRow ι) :
    Proc.Every (Reported reports)
      (SubmitWrite complete request.clientOrderId request.quantity) (fun _ => True)
      (submitExisting request existing : Action τ ι (OrderReceipt ι)) := by
  unfold submitExisting
  cases existing.brokerOrderId with
  | none => exact every_quiet (.pure _)
  | some orderId =>
      have hrefreshed : Proc.Every (Reported reports)
          (SubmitWrite complete request.clientOrderId request.quantity)
          (StoredInFull complete request.quantity)
          (refreshExisting request orderId : Action τ ι (OrderReceipt ι)) := by
        refine .bind (R := fun order => complete → order.FilledInFull) ?_ fun order horder => ?_
        · refine .bind (.ask fun _ hgiven => hgiven) fun answer hgiven => .ofExcept ?_
          exact fun order hok => hreports order (hgiven order hok)
        · refine .bind (R := fun receipt => receiptFromOrder order request.clientOrderId = .ok receipt)
            (.ofExcept fun _ hok => hok) fun receipt hreceipt => ?_
          refine .bind (R := fun _ => receipt.quantity = request.quantity ∧
            0 ≤ receipt.filledQuantity) (.ofExcept fun _ hok => validateReceipt_quantities hok) ?_
          intro _ hvalid
          refine .pure fun hcomplete hstatus => ?_
          exact congrArg some (filledQty_of_receipt (horder hcomplete) hreceipt hvalid hstatus)
      refine .bind (R := fun refreshed : Option (OrderReceipt ι) => ∀ receipt ∈ refreshed,
        StoredInFull complete request.quantity receipt) (.tryCatch ?_ fun error => ?_) ?_
      · refine .bind hrefreshed fun receipt hreceipt => .pure ?_
        rintro _ ⟨⟩
        exact hreceipt
      · cases error with
        | brokerReceiptValidation message =>
            exact .bind (every_updateOrder fun _ h => nomatch h) fun _ _ => .raise _
        | _ => exact .pure fun _ h => nomatch h
      · intro refreshed hall
        cases refreshed with
        | none => exact every_quiet (.pure _)
        | some receipt =>
            exact .bind (every_updateOrder (hall receipt rfl)) fun _ _ => every_quiet (.pure _)

private theorem every_brokerPlaceOrder (checks : Option BoundaryChecks) :
    Proc.Every answers (SubmitWrite complete clientOrderId quantity)
      (fun receipt => receipt.status = .exact .submitted)
      (brokerPlaceOrder self request checks) :=
  .bind (.of_atoms (.modify fun _ _ => .unchanged rfl)) fun _ _ => every_placeOrder request

private theorem every_rejectAtBoundary {R : OrderReceipt ι → Prop} (message : String) :
    Proc.Every answers (SubmitWrite complete clientOrderId quantity) R
      (rejectAtBoundary clientOrderId message : Action τ ι (OrderReceipt ι)) :=
  .bind (every_updateOrder fun _ h => nomatch h) fun _ _ => .raise _

private theorem every_placeSide :
    Proc.Every answers (SubmitWrite complete request.clientOrderId quantity)
      (fun receipt => receipt.status = .exact .submitted) (placeSide self request) := by
  unfold placeSide
  split
  · refine .withLock (.bind (every_quiet quiet_buyIsHalted) fun halted _ => ?_)
    refine .ite (fun _ => every_rejectAtBoundary _) fun _ => ?_
    refine .bind (every_quiet (quiet_readSafeMode _)) fun safeMode _ => ?_
    refine .ite (fun _ => every_rejectAtBoundary _) fun _ => ?_
    refine .bind (every_quiet (quiet_requireLiveAutoContract _)) fun view _ => ?_
    exact every_brokerPlaceOrder _
  · exact every_brokerPlaceOrder _

private theorem every_recordFailure {R : OrderReceipt ι → Prop} (error : PyError) :
    Proc.Every answers (SubmitWrite complete request.clientOrderId quantity) R
      (recordFailure request error : Action τ ι (OrderReceipt ι)) := by
  have hother : ∀ error, Proc.Every answers
      (SubmitWrite complete request.clientOrderId quantity) R
      (do
        let stored ← readRepo fun repo => repo.getOrderByClientId request.clientOrderId
        if stored.map OrderRow.status = some .rejected then throw error
        else
          updateOrder request.clientOrderId { status := .exact .unknown }
          throw error : Action τ ι (OrderReceipt ι)) := by
    intro error
    refine .bind (every_quiet (quiet_readRepo _)) fun stored _ => ?_
    refine .ite (fun _ => .raise _) fun _ => ?_
    exact .bind (every_updateOrder fun _ h => nomatch h) fun _ _ => .raise _
  cases error with
  | tossApi apiError =>
      refine .bind (every_updateOrder fun _ h => ?_) fun _ _ => .raise _
      cases hretryable : apiError.retryable <;> simp [hretryable, StatusText.upper?] at h
  | value message => exact hother _
  | key => exact hother _
  | stateConflict message => exact hother _
  | runtime message => exact hother _
  | integrity => exact hother _
  | brokerReceiptValidation message => exact hother _
  | other name => exact hother _

private theorem every_place :
    Proc.Every answers (SubmitWrite complete request.clientOrderId quantity) (fun _ => True)
      (place self request) := by
  refine .bind (R := fun receipt => receipt.status = .exact .submitted) (.tryCatch ?_ ?_) ?_
  · refine .bind every_placeSide fun receipt hstatus => ?_
    exact .bind (every_quiet (.ofExcept _)) fun _ _ => .pure hstatus
  · exact fun error => every_recordFailure error
  · intro receipt hstatus
    refine .bind (every_updateOrder fun _ h => ?_) fun _ _ => every_quiet (.pure _)
    simp [OrderReceipt.toUpdate, hstatus, StatusText.upper?] at h

/-- Every transaction of `submit` is a write. -/
theorem every_submit (hreports : ∀ order, reports order → complete → order.FilledInFull)
    (config : StrategyConfig) (settings : RuntimeSettings) (self : τ)
    (request : OrderRequest ι) :
    Proc.Every (Reported reports)
      (SubmitWrite complete request.clientOrderId request.quantity) (fun _ => True)
      (submit config settings self request) := by
  refine .bind (R := fun normalized => normalized.clientOrderId = request.clientOrderId ∧
    normalized.quantity = request.quantity) (.ofExcept fun _ => normalizeSellLimitRequest_ok) ?_
  rintro normalized ⟨hid, hquantity⟩
  rw [← hid, ← hquantity]
  refine .bind (every_quiet (quiet_readRepo _)) fun found _ => ?_
  cases found with
  | some existing => exact every_submitExisting hreports existing
  | none =>
      have hcommissioned : Proc.Quiet (requireCommissionedLiveLedger settings : Action τ ι Unit) :=
        .bind (.ofExcept _) fun _ => .bind (quiet_getSystemValue _) fun _ => .raiseIf _ _
      have hreserve : Proc.Every (Reported reports)
          (SubmitWrite complete normalized.clientOrderId normalized.quantity) (fun _ => True)
          (reserve config settings self normalized) := by
        refine .bind (every_quiet hcommissioned) fun _ _ => ?_
        exact .bind (every_reserveSide config) fun _ _ => every_quiet (.raiseIf _ _)
      exact .bind hreserve fun _ _ => every_place

end Submit

/-! ## Runs -/

/-- The conditions of a complete run: what `get_order` may answer, and whether `submit` is
called for a stored id with another quantity. -/
structure OrderConditions (ι : Type) where
  reports : BrokerOrder ι → Prop
  ownQuantity : Prop

/-- Any answer, any request. -/
def OrderConditions.none : OrderConditions ι := ⟨fun _ => True, False⟩

/-- The broker says FILLED of whole orders only, and a request for a stored id has the
quantity of its row. -/
def OrderConditions.inFull : OrderConditions ι := ⟨BrokerOrder.FilledInFull, True⟩

/-- One step of the process. -/
inductive OrderStep (config : StrategyConfig) (settings : RuntimeSettings)
    (conditions : OrderConditions ι) : Repository ι → Repository ι → Prop
  /-- A transaction of `submit`. -/
  | submit {τ : Type} (thread : τ) (request : OrderRequest ι) (world : World τ ι)
      (update : World τ ι → World τ ι)
      (offered : Prog.Offers (Reported conditions.reports) update
        (OrderManager.submit config settings thread request))
      (own : conditions.ownQuantity → ∀ row,
        world.repo.orders.get? request.clientOrderId = some row → row.qty = request.quantity) :
      OrderStep config settings conditions world.repo (update world).repo
  /-- `refresh_order`, of the monitor or of any other service. -/
  | refreshOrder (answer : Py (BrokerOrder ι))
      (reported : ∀ order, answer = .ok order → conditions.reports order) (repo : Repository ι)
      (clientOrderId : ι) :
      OrderStep config settings conditions repo
        (OrderManager.refreshOrder answer repo clientOrderId).1
  /-- The refresh of the reconciliation, with the row as `open_orders` has read it. -/
  | refreshCoreOrder (reads : BrokerReads ι) (brokerOrderId : BrokerOrderId)
      (reported : ∀ order, reads.getOrder brokerOrderId = .ok order → conditions.reports order)
      (repo : Repository ι) (row : OrderRow ι)
      (read : ∀ stored, repo.orders.get? row.clientOrderId = some stored → stored.qty = row.qty) :
      OrderStep config settings conditions repo
        (ReconciliationService.refreshCoreOrder reads repo row brokerOrderId).1
  /-- Everything else leaves the orders alone. -/
  | elsewhere {repo repo' : Repository ι} (orders : repo'.orders = repo.orders) :
      OrderStep config settings conditions repo repo'

/-- Any number of steps, of any number of threads. -/
def OrderRun (config : StrategyConfig) (settings : RuntimeSettings)
    (conditions : OrderConditions ι) : Repository ι → Repository ι → Prop :=
  Relation.ReflTransGen (OrderStep config settings conditions)

/-- A step is a write, which is complete under the conditions. -/
theorem OrderStep.write {config : StrategyConfig} {settings : RuntimeSettings}
    {conditions : OrderConditions ι} {complete : Prop} {repo repo' : Repository ι}
    (hfull : complete → (∀ order, conditions.reports order → order.FilledInFull) ∧
      conditions.ownQuantity)
    (hstep : OrderStep config settings conditions repo repo') :
    OrderWrite complete repo repo' := by
  cases hstep with
  | submit thread request world update hoffered hown =>
      have hwrite : SubmitWrite complete request.clientOrderId request.quantity update :=
        Prog.Every.of_offers (every_submit (fun order horder hcomplete =>
          (hfull hcomplete).1 order horder) config settings thread request) hoffered
      exact hwrite world fun hcomplete => hown (hfull hcomplete).2
  | refreshOrder answer hreported repo clientOrderId =>
      exact OrderManager.refreshOrder_write fun order horder hcomplete =>
        (hfull hcomplete).1 order (hreported order horder)
  | refreshCoreOrder reads brokerOrderId hreported repo row hread =>
      exact ReconciliationService.refreshCoreOrder_write (fun order horder hcomplete =>
        (hfull hcomplete).1 order (hreported order horder)) hread
  | elsewhere horders => exact .unchanged horders

end JdHoldings

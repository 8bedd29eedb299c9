import JdHoldings.Orders.SubmitReads

/-!
# Unsent rows

A row without a broker id is written by the call that inserted it and by nobody else:
every other writer of an order row has read its broker id first.  So between its
reservation and the POST a row stays as the call has left it, whatever the other
threads do (`LeavesUnsent`), and a thread leaves the unsent rows of the others alone
(`LeavesOthers`).  `rowDiscipline` puts the two together.

The steps of a submission come in two kinds.

* Before `place_order` the row is `Unsent`, and each write has a rule of its own.
* Afterwards it is `Placed`, and nothing takes that back.
-/

namespace JdHoldings

open OrderManager

variable {τ ι α : Type} [DecidableEq ι]

/-! ## Vocabulary -/

/-- The event starts `place_order` for the id. -/
def Event.isPlacingOf (clientOrderId : ι) : Event τ ι → Bool
  | .placing _ request _ _ => decide (request.clientOrderId = clientOrderId)
  | _ => false

/-- How often `place_order` was invoked for the id. -/
def World.placings (world : World τ ι) (clientOrderId : ι) : ℕ :=
  world.log.countP (Event.isPlacingOf clientOrderId)

/-- The row under the id. -/
def World.order (world : World τ ι) (clientOrderId : ι) : Option (OrderRow ι) :=
  world.repo.orders.get? clientOrderId

/-- Between the two states an order of the thread ended UNKNOWN without a broker id only
if `place_order` was invoked for it. -/
def UnknownOnlyIfPlaced (self : τ) (clientOrderId : ι) (world world' : World τ ι) : Prop :=
  ∀ row, world'.order clientOrderId = some row → row.status = .unknown →
    row.brokerOrderId = none → world'.reservedBy clientOrderId = some self →
      world.order clientOrderId = some row ∨
        world.placings clientOrderId < world'.placings clientOrderId

/-! ## The discipline -/

/-- What every step of every thread keeps: no row is deleted, changes hands, or loses its
broker id. -/
structure KeepsRows (world world' : World τ ι) : Prop where
  rows : ∀ id, (world.order id).isSome = true → (world'.order id).isSome = true
  owner : ∀ id, (world.order id).isSome = true → world'.reservedBy id = world.reservedBy id
  sent : ∀ id row, world.order id = some row → row.brokerOrderId ≠ none →
    ∃ row', world'.order id = some row' ∧ row'.brokerOrderId ≠ none

/-- The other threads leave the unsent rows of the thread alone. -/
structure LeavesUnsent (thread : τ) (world world' : World τ ι) : Prop extends
    KeepsRows world world' where
  unsent : ∀ id row, world.order id = some row → row.brokerOrderId = none →
    world.reservedBy id = some thread → world'.order id = some row
  fresh : ∀ id, (world'.order id).isSome = true → world'.reservedBy id = some thread →
    (world.order id).isSome = true
  placings : ∀ id, ((world'.order id).isSome = true → world'.reservedBy id = some thread) →
    world'.placings id = world.placings id

/-- The thread leaves the unsent rows of all others alone. -/
structure LeavesOthers (thread : τ) (world world' : World τ ι) : Prop extends
    KeepsRows world world' where
  unsent : ∀ id row, world.order id = some row → row.brokerOrderId = none →
    world.reservedBy id ≠ some thread → world'.order id = some row
  fresh : ∀ id, (world'.order id).isSome = true → world'.reservedBy id ≠ some thread →
    (world.order id).isSome = true
  placings : ∀ id, ((world'.order id).isSome = true → world'.reservedBy id ≠ some thread) →
    world'.placings id = world.placings id

def rowDiscipline (self : τ) : Prog.Discipline (World τ ι) (Query ι) Answer where
  rely := fun _ => LeavesUnsent self
  guarantee := fun _ => LeavesOthers self
  invariant := fun _ => True
  answers := fun _ _ => True

namespace KeepsRows

variable {world world' world'' : World τ ι}

theorem refl (world : World τ ι) : KeepsRows world world :=
  ⟨fun _ h => h, fun _ _ => rfl, fun _ row hrow hsent => ⟨row, hrow, hsent⟩⟩

theorem trans (hfirst : KeepsRows world world') (hsecond : KeepsRows world' world'') :
    KeepsRows world world'' where
  rows := fun id h => hsecond.rows id (hfirst.rows id h)
  owner := fun id h => (hsecond.owner id (hfirst.rows id h)).trans (hfirst.owner id h)
  sent := fun id row hrow hsent => by
    obtain ⟨row', hrow', hsent'⟩ := hfirst.sent id row hrow hsent
    exact hsecond.sent id row' hrow' hsent'

end KeepsRows

namespace LeavesUnsent

variable {self : τ} {world world' world'' : World τ ι}

theorem refl (self : τ) (world : World τ ι) : LeavesUnsent self world world :=
  ⟨KeepsRows.refl world, fun _ _ hrow _ _ => hrow, fun _ h _ => h, fun _ _ => rfl⟩

theorem trans (hfirst : LeavesUnsent self world world')
    (hsecond : LeavesUnsent self world' world'') : LeavesUnsent self world world'' where
  toKeepsRows := hfirst.toKeepsRows.trans hsecond.toKeepsRows
  unsent := fun id row hrow hunsent howner => by
    have hsome : (world.order id).isSome = true := by rw [hrow]; rfl
    have howner' := (hfirst.owner id hsome).trans howner
    exact hsecond.unsent id row (hfirst.unsent id row hrow hunsent howner) hunsent howner'
  fresh := fun id hsome howner => by
    have hsome' := hsecond.fresh id hsome howner
    exact hfirst.fresh id hsome' ((hsecond.owner id hsome').symm.trans howner)
  placings := fun id howner => by
    have howner' : (world'.order id).isSome = true → world'.reservedBy id = some self := by
      intro hsome
      exact (hsecond.owner id hsome).symm.trans (howner (hsecond.rows id hsome))
    exact (hsecond.placings id howner).trans (hfirst.placings id howner')

end LeavesUnsent

theorem LeavesOthers.refl (self : τ) (world : World τ ι) : LeavesOthers self world world :=
  ⟨KeepsRows.refl world, fun _ _ hrow _ _ => hrow, fun _ h _ => h, fun _ _ => rfl⟩

theorem rowDiscipline_lawful (self : τ) : (rowDiscipline (ι := ι) self).Lawful where
  rely_refl := fun _ => LeavesUnsent.refl self
  rely_trans := LeavesUnsent.trans
  guarantee_refl := fun _ => LeavesOthers.refl self

/-- What one thread leaves alone, another one finds as it was. -/
theorem rowDiscipline_compatible :
    Pool.Compatible (rowDiscipline (τ := τ) (ι := ι)) (fun _ => True) where
  lawful := rowDiscipline_lawful
  invariant_eq := fun _ => rfl
  answers := fun _ _ _ => trivial
  rely := by
    rintro t u held held' world world' hne - (hleaves : LeavesOthers t world world')
    have hother : ∀ {id : ι} {world : World τ ι}, world.reservedBy id = some u →
        world.reservedBy id ≠ some t := by
      intro id world howner
      rw [howner]
      exact fun h => hne (Option.some.inj h).symm
    show LeavesUnsent u world world'
    exact {
      toKeepsRows := hleaves.toKeepsRows
      unsent := fun id row hrow hunsent howner =>
        hleaves.unsent id row hrow hunsent (hother howner)
      fresh := fun id hsome howner => hleaves.fresh id hsome (hother howner)
      placings := fun id howner => hleaves.placings id fun hsome => hother (howner hsome) }

/-! ## The row of a submission -/

/-- The thread has inserted the row, the broker has not seen it, and it was placed
`count` times. -/
structure Unsent (thread : τ) (clientOrderId : ι) (status : OrderStatus) (count : ℕ)
    (world : World τ ι) : Prop where
  row : ∃ row, world.order clientOrderId = some row ∧ row.status = status ∧
    row.brokerOrderId = none
  owner : world.reservedBy clientOrderId = some thread
  placings : world.placings clientOrderId = count

/-- The thread has inserted the row and placed it more than `count` times. -/
structure Placed (thread : τ) (clientOrderId : ι) (count : ℕ) (world : World τ ι) : Prop where
  reserved : (world.order clientOrderId).isSome = true
  owner : world.reservedBy clientOrderId = some thread
  placed : count < world.placings clientOrderId

/-- An unsent row of the thread was there before. -/
def Earlier (thread : τ) (clientOrderId : ι) (before world : World τ ι) : Prop :=
  ∀ row, world.order clientOrderId = some row → row.brokerOrderId = none →
    world.reservedBy clientOrderId = some thread → before.order clientOrderId = some row

section Stable

variable {self : τ} {id : ι} {status : OrderStatus} {count : ℕ} {before world world' : World τ ι}

theorem Unsent.of_rely (hunsent : Unsent self id status count world)
    (hrely : LeavesUnsent self world world') : Unsent self id status count world' := by
  obtain ⟨row, hrow, hstatus, hnone⟩ := hunsent.row
  have hsome : (world.order id).isSome = true := by rw [hrow]; rfl
  have howner := (hrely.owner id hsome).trans hunsent.owner
  exact ⟨⟨row, hrely.unsent id row hrow hnone hunsent.owner, hstatus, hnone⟩, howner,
    (hrely.placings id fun _ => howner).trans hunsent.placings⟩

theorem Placed.of_rely (hplaced : Placed self id count world)
    (hrely : LeavesUnsent self world world') : Placed self id count world' := by
  have howner := (hrely.owner id hplaced.reserved).trans hplaced.owner
  refine ⟨hrely.rows id hplaced.reserved, howner, ?_⟩
  rw [hrely.placings id fun _ => howner]
  exact hplaced.placed

theorem Earlier.of_rely (hearlier : Earlier self id before world)
    (hrely : LeavesUnsent self world world') : Earlier self id before world' := by
  intro row' hrow' hnone' howner'
  have hsome := hrely.fresh id (by rw [hrow']; rfl) howner'
  obtain ⟨row, hrow⟩ := Option.isSome_iff_exists.mp hsome
  have howner := (hrely.owner id hsome).symm.trans howner'
  by_cases hnone : row.brokerOrderId = none
  · have hsame := hrely.unsent id row hrow hnone howner
    rw [hrow'] at hsame
    rw [Option.some.inj hsame]
    exact hearlier row hrow hnone howner
  · -- A row that was sent stays sent.
    obtain ⟨row'', hrow'', hsent⟩ := hrely.sent id row hrow hnone
    rw [hrow'] at hrow''
    rw [← Option.some.inj hrow''] at hsent
    exact absurd hnone' hsent

end Stable

/-! ## Steps -/

section Steps

variable {self : τ} {world : World τ ι}

theorem World.placings_record (world : World τ ι) (event : Event τ ι) (id : ι) :
    (world.record event).placings id =
      world.placings id + if event.isPlacingOf id then 1 else 0 := by
  simp only [placings, record_log, List.countP_cons]

/-- A note changes no row. -/
theorem LeavesOthers.record {event : Event τ ι}
    (hplacing : ∀ id, event.isPlacingOf id = true →
      (world.order id).isSome = true ∧ world.reservedBy id = some self) :
    LeavesOthers self world (world.record event) where
  rows := fun _ h => h
  owner := fun _ _ => rfl
  sent := fun _ row hrow hsent => ⟨row, hrow, hsent⟩
  unsent := fun _ _ hrow _ _ => hrow
  fresh := fun _ h _ => h
  placings := fun id hother => by
    have hnot : event.isPlacingOf id = false := by
      by_contra hplaced
      obtain ⟨hsome, howner⟩ := hplacing id (eq_true_of_ne_false hplaced)
      exact hother hsome howner
    rw [World.placings_record, hnot]
    rfl

/-- The row an update leaves. -/
theorem World.order_update {repo' : Repository ι} {id : ι} {update : OrderUpdate}
    (hok : world.repo.updateOrder id update = .ok repo') :
    ∃ existing row status, world.order id = some existing ∧
      existing.Updated row status update ∧ (world.setRepo repo').order id = some row ∧
      ∀ other, other ≠ id → (world.setRepo repo').order other = world.order other := by
  obtain ⟨existing, row, status, hget, hupdated, rfl⟩ := Repository.updateOrder_ok hok
  have hkey : row.clientOrderId = id := hupdated.clientOrderId.trans (Table.key_of_get? hget)
  subst hkey
  exact ⟨existing, row, status, hget, hupdated, Table.get?_replace_self hget,
    fun other hne => Table.get?_replace_of_ne hne⟩

/-- An update of a row that was sent, or that the thread has inserted itself. -/
theorem LeavesOthers.update {repo' : Repository ι} {id : ι} {update : OrderUpdate}
    (hmine : ∀ row, world.order id = some row → row.brokerOrderId = none →
      world.reservedBy id = some self)
    (hok : world.repo.updateOrder id update = .ok repo') :
    LeavesOthers self world (world.setRepo repo') := by
  obtain ⟨existing, row, status, hget, hupdated, hself, hother⟩ := World.order_update hok
  have hrows : ∀ other, (world.order other).isSome = ((world.setRepo repo').order other).isSome := by
    intro other
    by_cases hid : other = id
    · rw [hid, hget, hself]
      rfl
    · rw [hother other hid]
  refine ⟨⟨fun other h => hrows other ▸ h, fun _ _ => rfl, fun other old hold hsent => ?_⟩,
    fun other old hold hnone howner => ?_, fun other h _ => (hrows other).symm ▸ h,
    fun _ _ => rfl⟩
  · by_cases hid : other = id
    · subst hid
      refine ⟨row, hself, ?_⟩
      rw [hget] at hold
      rw [hupdated.brokerOrderId, Option.some.inj hold]
      cases update.brokerOrderId with
      | none => exact hsent
      | some orderId => exact nofun
    · exact ⟨old, (hother other hid).trans hold, hsent⟩
  · by_cases hid : other = id
    · subst hid
      exact absurd (hmine old hold hnone) howner
    · exact (hother other hid).trans hold

end Steps

/-! ## After `place_order` -/

section AfterPlacing

variable {self : τ} {held : Bool} {id : ι} {count : ℕ}

theorem carries_updateOrder {J : World τ ι → Prop} {update : OrderUpdate}
    (hstep : ∀ world repo', J world → world.repo.updateOrder id update = .ok repo' →
      LeavesOthers self world (world.setRepo repo') ∧ J (world.setRepo repo')) :
    Proc.Carries (rowDiscipline self) J held (updateOrder id update : Action τ ι Unit) := by
  refine .transaction (rowDiscipline_lawful self) fun world world' _ _ hfact hcommit => ?_
  cases hok : world.repo.updateOrder id update with
  | error error =>
      simp only [hok] at hcommit
      cases hcommit
  | ok repo' =>
      simp only [hok] at hcommit
      obtain ⟨rfl, -⟩ := Prod.mk.inj (Except.ok.inj hcommit)
      obtain ⟨hleaves, hkept⟩ := hstep world repo' hfact hok
      exact ⟨hleaves, trivial, hkept⟩

/-- An order that was placed may be updated in any way. -/
theorem carries_update_placed (update : OrderUpdate) :
    Proc.Carries (rowDiscipline self) (Placed self id count) held
      (updateOrder id update : Action τ ι Unit) := by
  refine carries_updateOrder fun world repo' hplaced hok => ⟨?_, ?_⟩
  · exact LeavesOthers.update (fun _ _ _ => hplaced.owner) hok
  · obtain ⟨existing, row, status, -, -, hself, -⟩ := World.order_update hok
    exact ⟨by rw [hself]; rfl, hplaced.owner, hplaced.placed⟩

theorem carries_record_placed {event : Event τ ι} (hplain : ∀ id, event.isPlacingOf id = false) :
    Proc.Carries (rowDiscipline self) (Placed self id count) held
      (record event : Action τ ι Unit) := by
  refine .modify fun world _ hplaced => ⟨?_, trivial, hplaced.reserved, hplaced.owner, ?_⟩
  · exact LeavesOthers.record fun id h => absurd (hplain id) (by rw [h]; exact nofun)
  · rw [World.placings_record]
    exact lt_of_lt_of_le hplaced.placed (Nat.le_add_right _ _)

theorem carries_sessionRequest (method : HttpMethod) (path : ApiRequest ι) :
    Proc.Carries (rowDiscipline self) (Placed self id count) held
      (TossClient.sessionRequest self method path) := by
  have hlawful := rowDiscipline_lawful (ι := ι) self
  refine .bind (.of_quiet hlawful (quiet_authenticate false)) fun _ => ?_
  refine .bind (carries_record_placed fun _ => rfl) fun _ => ?_
  refine .bind (.of_quiet hlawful (.ask _)) fun outcome => ?_
  refine .bind (carries_record_placed fun _ => rfl) fun _ => .of_quiet hlawful ?_
  cases outcome <;> trivial

theorem carries_request (method : HttpMethod) (path : ApiRequest ι) (retries : ℕ) :
    Proc.Carries (rowDiscipline self) (Placed self id count) held
      (TossClient.request self method path retries) := by
  have hlawful := rowDiscipline_lawful (ι := ι) self
  induction retries with
  | zero => exact .bind (carries_sessionRequest method path) fun _ => .of_quiet hlawful (.ofExcept _)
  | succ retries ih =>
      refine .bind (carries_sessionRequest method path) fun response => ?_
      refine .ite (fun _ => ?_) fun _ => .of_quiet hlawful (.ofExcept _)
      refine .bind (.of_quiet hlawful quiet_refreshToken) fun refreshed => ?_
      exact .ite (fun _ => ih) fun _ => .of_quiet hlawful (.raise _)

theorem carries_recordFailure (request : OrderRequest ι) (error : PyError) :
    Proc.Carries (rowDiscipline self) (Placed self request.clientOrderId count) held
      (recordFailure request error) := by
  have hlawful := rowDiscipline_lawful (ι := ι) self
  have hraise : ∀ error : PyError, Proc.Carries (rowDiscipline self)
      (Placed self request.clientOrderId count) held
      (throw error : Action τ ι (OrderReceipt ι)) := fun error => .of_quiet hlawful (.raise error)
  have hunknown : ∀ error : PyError, Proc.Carries (rowDiscipline self)
      (Placed self request.clientOrderId count) held (do
        let stored ← readRepo fun repo => repo.getOrderByClientId request.clientOrderId
        if stored.map OrderRow.status = some .rejected then throw error
        else
          updateOrder request.clientOrderId { status := .exact .unknown }
          throw error : Action τ ι (OrderReceipt ι)) := fun error =>
    .bind (.of_quiet hlawful (quiet_readRepo _)) fun stored =>
      .ite (fun _ => hraise error) fun _ => .bind (carries_update_placed _) fun _ => hraise error
  cases error with
  | tossApi apiError => exact .bind (carries_update_placed _) fun _ => hraise _
  | _ => exact hunknown _

/-- Whatever becomes of an order that was placed, it was placed. -/
theorem carries_settle (request : OrderRequest ι) (placed : Py (OrderReceipt ι)) :
    Proc.Carries (rowDiscipline self) (Placed self request.clientOrderId count) held
      (settle request placed) := by
  have hlawful := rowDiscipline_lawful (ι := ι) self
  refine .bind (.tryCatch (.of_quiet hlawful ?_) fun error => carries_recordFailure request error)
    fun receipt => .bind (carries_update_placed _) fun _ => .of_quiet hlawful (.pure _)
  exact .bind (.ofExcept _) fun _ => .bind (.ofExcept _) fun _ => .pure _

end AfterPlacing

/-! ## Before `place_order` -/

section BeforePlacing

variable {self : τ} {held : Bool} {count : ℕ} {world : World τ ι}

/-- A status is stored in an open row that was not sent. -/
theorem updateOrder_unsent {repo : Repository ι} {id : ι} {row : OrderRow ι}
    (hget : repo.orders.get? id = some row) (hopen : row.status.isTerminal = false)
    (hnone : row.brokerOrderId = none) (next : OrderStatus) :
    ∃ repo', repo.updateOrder id { status := .exact next } = .ok repo' ∧
      repo'.orders.get? id = some { row with status := next } := by
  have hkey : row.clientOrderId = id := Table.key_of_get? hget
  refine ⟨{ repo with orders := repo.orders.replace { row with status := next } }, ?_, ?_⟩
  · unfold Repository.updateOrder
    simp [StatusText.upper?, hget, OrderRow.update, hopen, Repository.brokerOrderIdTaken, hnone]
  · have hself : repo.orders.get? ({ row with status := next } : OrderRow ι).clientOrderId
        = some row := by rw [hkey, hget]
    rw [← hkey]
    exact Table.get?_replace_self hself

/-- The thread may write any status into its unsent row while it is open. -/
theorem wp_updateOrder_unsent {id : ι} {status : OrderStatus} (next : OrderStatus)
    {ok : Bool → Unit → World τ ι → Prop} {err : Bool → PyError → World τ ι → Prop}
    (hopen : status.isTerminal = false) (hunsent : Unsent self id status count world)
    (hok : ∀ world', Unsent self id next count world' → ok held () world') :
    Proc.wp (rowDiscipline self) ok err (updateOrder id { status := .exact next }) held world := by
  have hwrite : ∀ world₁, LeavesUnsent self world world₁ → ∃ repo',
      world₁.repo.updateOrder id { status := .exact next } = .ok repo' ∧
        Unsent self id next count (world₁.setRepo repo') := by
    intro world₁ hrely
    have hunsent₁ := hunsent.of_rely hrely
    obtain ⟨row, hrow, hstatus, hnone⟩ := hunsent₁.row
    obtain ⟨repo', hwritten, hget⟩ := updateOrder_unsent hrow (by rw [hstatus, hopen]) hnone next
    exact ⟨repo', hwritten, ⟨_, hget, rfl, hnone⟩, hunsent₁.owner, hunsent₁.placings⟩
  refine Proc.wp_transaction (rowDiscipline_lawful self) ?_ ?_
  · intro world₁ world₂ _ hrely _ hcommit
    obtain ⟨repo', hwritten, hunsent'⟩ := hwrite world₁ hrely
    simp only [hwritten] at hcommit
    obtain ⟨rfl, -⟩ := Prod.mk.inj (Except.ok.inj hcommit)
    have howner := (hunsent.of_rely hrely).owner
    exact ⟨LeavesOthers.update (fun _ _ _ => howner) hwritten, trivial, hok _ hunsent'⟩
  · intro world₁ error hrely habort
    obtain ⟨repo', hwritten, -⟩ := hwrite world₁ hrely
    simp only [hwritten] at habort
    cases habort

variable {request : OrderRequest ι} {ok : Bool → OrderReceipt ι → World τ ι → Prop}
  {err : Bool → PyError → World τ ι → Prop}

/-- The halt and SAFE_MODE reject the row before they raise. -/
theorem wp_rejectAtBoundary {message : String}
    (hunsent : Unsent self request.clientOrderId .created count world)
    (herr : ∀ world', Unsent self request.clientOrderId .rejected count world' →
      err held (.runtime message) world') :
    Proc.wp (rowDiscipline self) ok err (rejectAtBoundary request.clientOrderId message) held
      world := by
  refine Proc.wp_bind.mpr (wp_updateOrder_unsent .rejected rfl hunsent fun world' hrejected => ?_)
  exact herr world' hrejected

/-- The handler leaves a rejected row alone, and stores UNKNOWN over any other. -/
theorem wp_settle_runtime {message : String} {status : OrderStatus}
    (hstatus : status = .created ∨ status = .rejected)
    (hunsent : Unsent self request.clientOrderId status count world)
    (herr : ∀ world', Unsent self request.clientOrderId
      (if status = .rejected then .rejected else .unknown) count world' →
        err held (.runtime message) world') :
    Proc.wp (rowDiscipline self) ok err (settle request (.error (.runtime message))) held world := by
  refine Proc.wp_bind.mpr (Proc.wp_tryCatch.mpr ?_)
  show Proc.wp (rowDiscipline self) _ _ (recordFailure request (.runtime message)) held world
  refine Proc.wp_bind.mpr (Proc.wp_read (rowDiscipline_lawful self) fun world₁ hrely _ => ?_)
  have hunsent₁ := hunsent.of_rely hrely
  obtain ⟨row, hrow, hrowstatus, hnone⟩ := hunsent₁.row
  have hstored : (world₁.repo.getOrderByClientId request.clientOrderId).map OrderRow.status
      = some status := by
    rw [show world₁.repo.getOrderByClientId request.clientOrderId = some row from hrow,
      Option.map_some, hrowstatus]
  simp only [hstored]
  rcases hstatus with rfl | rfl
  · refine Proc.wp_bind.mpr (wp_updateOrder_unsent .unknown rfl hunsent₁ fun world₂ hunknown => ?_)
    exact herr world₂ hunknown
  · exact herr world₁ hunsent₁

/-- From here on the order counts as placed. -/
theorem wp_brokerPlaceOrder_unsent {checks : Option BoundaryChecks} {status : OrderStatus}
    (hunsent : Unsent self request.clientOrderId status count world)
    (hok : ∀ receipt world', Placed self request.clientOrderId count world' →
      ok held receipt world')
    (herr : ∀ error world', Placed self request.clientOrderId count world' →
      err held error world') :
    Proc.wp (rowDiscipline self) ok err (brokerPlaceOrder self request checks) held world := by
  refine Proc.wp_bind.mpr (Proc.wp_modify fun world₁ hrely _ => ?_)
  have hunsent₁ := hunsent.of_rely hrely
  obtain ⟨row, hrow, -, -⟩ := hunsent₁.row
  have hsome : (world₁.order request.clientOrderId).isSome = true := by rw [hrow]; rfl
  refine ⟨LeavesOthers.record fun id hplacing => ?_, trivial, ?_⟩
  · have hid : request.clientOrderId = id := of_decide_eq_true hplacing
    rw [← hid]
    exact ⟨hsome, hunsent₁.owner⟩
  · refine Proc.Carries.wp ?_ ⟨hsome, hunsent₁.owner, ?_⟩
      (fun _ _ hrely hplaced => hplaced.of_rely hrely) hok herr
    · refine .bind (.of_quiet (rowDiscipline_lawful self) (.ofExcept _)) fun _ => ?_
      refine .bind (carries_request _ _ _) fun _ => ?_
      exact .of_quiet (rowDiscipline_lawful self) (.ofExcept _)
    · rw [World.placings_record, hunsent₁.placings]
      simp [Event.isPlacingOf]

end BeforePlacing

end JdHoldings

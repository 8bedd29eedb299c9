import JdHoldings.Orders.UnsentRows

/-!
# Which submissions leave an UNKNOWN row

`submit` stores UNKNOWN when it cannot tell whether the broker has the order.

* A section whose reads pass ends with the order placed, or with its row REJECTED.
* A section whose reads do not pass ends with an UNKNOWN row that was never sent.
* A call without a section leaves no unsent row behind but one that was there.

The three are put together by `wp_submitObserved`, for every run among other threads.
-/

namespace JdHoldings

open OrderManager

variable {τ ι : Type} [DecidableEq ι]

/-! ## The section -/

/-- What is left of an order whose section has read this: if the reads pass, the order was
placed or its row is rejected, and otherwise its row is unknown. -/
structure Settled (thread : τ) (clientOrderId : ι) (count : ℕ)
    (reads : Option (Py BoundaryReads)) (world : World τ ι) : Prop where
  passed : (∀ read ∈ reads, BoundaryReads.Passes read) →
    Placed thread clientOrderId count world ∨ Unsent thread clientOrderId .rejected count world
  raised : ¬(∀ read ∈ reads, BoundaryReads.Passes read) →
    Unsent thread clientOrderId .unknown count world

section Section

variable {self : τ} {held : Bool} {count : ℕ} {world : World τ ι} {request : OrderRequest ι}

omit [DecidableEq ι] in
theorem raisesOnly_readBoundary (symbol : Symbol) :
    Proc.RaisesOnly (fun error => ∃ message, error = .runtime message)
      (readBoundary symbol : Action τ ι BoundaryReads) := by
  refine .bind (.bind (.read _) fun value => ?_) fun halted => .ite (fun _ => .pure _) fun _ => ?_
  · cases value with
    | none => exact .raise ⟨_, rfl⟩
    | some halted => exact .pure _
  · refine .bind (.bind (.read _) fun flag => .ite (fun _ => .pure _) fun _ => ?_) fun safeMode =>
      .ite (fun _ => .pure _) fun _ => .bind ?_ fun view => .bind (.ask _) fun _ => .pure _
    · cases symbol.enabled? with
      | none => exact .pure _
      | some enabled => exact .bind (.read _) fun _ => .pure _
    · unfold readGuardView
      iterate 12 refine .bind (.read _) fun _ => ?_
      exact .pure _

omit [DecidableEq ι] in
theorem quiet_readBoundary (symbol : Symbol) :
    Proc.Quiet (readBoundary symbol : Action τ ι BoundaryReads) := by
  refine .bind quiet_buyIsHalted fun halted => .ite (fun _ => .pure _) fun _ => ?_
  refine .bind (quiet_readSafeMode symbol) fun safeMode => .ite (fun _ => .pure _) fun _ => ?_
  exact .bind quiet_readGuardView fun view => .bind (.ask _) fun _ => .pure _

theorem Settled.of_placed {id : ι} {reads : Option (Py BoundaryReads)}
    (hpasses : ∀ read ∈ reads, BoundaryReads.Passes read) (hplaced : Placed self id count world) :
    Settled self id count reads world :=
  ⟨fun _ => Or.inl hplaced, fun hnot => absurd hpasses hnot⟩

theorem Settled.of_raised {id : ι} {read : Py BoundaryReads}
    (hraises : ¬BoundaryReads.Passes read) (hunknown : Unsent self id .unknown count world) :
    Settled self id count (some read) world :=
  ⟨fun hpasses => absurd (hpasses read rfl) hraises, fun _ => hunknown⟩

/-- A postcondition about the reads holds of the observation. -/
theorem wp_observed {E : Option (Py BoundaryReads) → World τ ι → Prop}
    {reads : Option (Py BoundaryReads)} {p : Action τ ι (OrderReceipt ι)}
    (hwp : Proc.wp (rowDiscipline self) (fun _ _ world => E reads world)
      (fun _ _ world => E reads world) p held world) :
    Prog.wp (rowDiscipline self) (fun _ observed world => E observed.reads world)
      (Prog.bind p fun outcome => .done (SubmitObservation.mk reads outcome)) held world := by
  refine (Prog.wp_bind p).mpr (Prog.wp_mono ?_ hwp)
  rintro held' (error | receipt) world' hpost <;> exact hpost

/-- Whatever becomes of an order that was placed. -/
theorem wp_settle_placed {reads : Option (Py BoundaryReads)} {placed : Py (OrderReceipt ι)}
    (hpasses : ∀ read ∈ reads, BoundaryReads.Passes read)
    (hplaced : Placed self request.clientOrderId count world) :
    Proc.wp (rowDiscipline self)
      (fun _ _ world => Settled self request.clientOrderId count reads world)
      (fun _ _ world => Settled self request.clientOrderId count reads world)
      (settle request placed) held world :=
  (carries_settle request placed).wp hplaced (fun _ _ hrely hfact => hfact.of_rely hrely)
    (fun _ _ hfact => .of_placed hpasses hfact) fun _ _ hfact => .of_placed hpasses hfact

/-- What the section of a BUY hands to the handlers. -/
inductive SectionEnds (thread : τ) (clientOrderId : ι) (count : ℕ) (read : Py BoundaryReads)
    (world : World τ ι) : Py (OrderReceipt ι) → Prop
  | placed (end_ : Py (OrderReceipt ι)) (passes : BoundaryReads.Passes read)
      (placed : Placed thread clientOrderId count world) :
      SectionEnds thread clientOrderId count read world end_
  | rejected (message : String) (passes : BoundaryReads.Passes read)
      (rejected : Unsent thread clientOrderId .rejected count world) :
      SectionEnds thread clientOrderId count read world (.error (.runtime message))
  | raised (message : String) (raises : ¬BoundaryReads.Passes read)
      (untouched : Unsent thread clientOrderId .created count world) :
      SectionEnds thread clientOrderId count read world (.error (.runtime message))

theorem wp_section {read : Py BoundaryReads}
    (herror : ∀ error, read = .error error → ∃ message, error = .runtime message)
    (hunsent : Unsent self request.clientOrderId .created count world) :
    Prog.wp (rowDiscipline self)
      (fun held' placed world =>
        held' = held ∧ SectionEnds self request.clientOrderId count read world placed)
      (Proc.ofExcept read >>= actOn self request : Action τ ι (OrderReceipt ι)) held world := by
  cases read with
  | error error =>
      obtain ⟨message, rfl⟩ := herror error rfl
      exact ⟨rfl, .raised message id hunsent⟩
  | ok reads =>
      refine Proc.wp_either ?_
      cases reads with
      | stopped message =>
          refine wp_rejectAtBoundary hunsent fun world' hrejected => ?_
          exact ⟨rfl, .rejected message trivial hrejected⟩
      | contract safeMode view regularSession =>
          show Proc.wp (rowDiscipline self) _ _
            (Proc.ofExcept (view.requireLiveAutoBuyContract true regularSession) >>= fun _ =>
              brokerPlaceOrder self request
                (some { autoState := view.autoState, safeMode := safeMode })) held world
          cases hcontract : view.requireLiveAutoBuyContract true regularSession with
          | error error =>
              obtain ⟨message, rfl⟩ := view.requireLiveAutoBuyContract_raises true regularSession
                error hcontract
              refine ⟨rfl, .raised message (fun hpasses => ?_) hunsent⟩
              have hok : view.requireLiveAutoBuyContract true regularSession = .ok () := hpasses
              rw [hcontract] at hok
              cases hok
          | ok u =>
              show Proc.wp (rowDiscipline self) _ _ (brokerPlaceOrder self request _) held world
              refine wp_brokerPlaceOrder_unsent hunsent (fun receipt world' hplaced => ?_)
                fun error world' hplaced => ?_
              · exact ⟨rfl, .placed _ hcontract hplaced⟩
              · exact ⟨rfl, .placed _ hcontract hplaced⟩

theorem SectionEnds.of_rely {id : ι} {read : Py BoundaryReads} {placed : Py (OrderReceipt ι)}
    {world' : World τ ι} (hends : SectionEnds self id count read world placed)
    (hrely : LeavesUnsent self world world') : SectionEnds self id count read world' placed := by
  cases hends with
  | placed placed hpasses hplaced => exact .placed placed hpasses (hplaced.of_rely hrely)
  | rejected message hpasses hrejected => exact .rejected message hpasses (hrejected.of_rely hrely)
  | raised message hraises huntouched => exact .raised message hraises (huntouched.of_rely hrely)

/-- What the handlers make of it. -/
theorem wp_settle {read : Py BoundaryReads} {placed : Py (OrderReceipt ι)}
    (hends : SectionEnds self request.clientOrderId count read world placed) :
    Proc.wp (rowDiscipline self)
      (fun _ _ world => Settled self request.clientOrderId count (some read) world)
      (fun _ _ world => Settled self request.clientOrderId count (some read) world)
      (settle request placed) held world := by
  cases hends with
  | placed placed hpasses hplaced =>
      refine wp_settle_placed ?_ hplaced
      rintro _ ⟨⟩
      exact hpasses
  | rejected message hpasses hrejected =>
      refine wp_settle_runtime (Or.inr rfl) hrejected fun world' hrejected' => ?_
      refine ⟨fun _ => Or.inr hrejected', fun hnot => absurd ?_ hnot⟩
      rintro _ ⟨⟩
      exact hpasses
  | raised message hraises huntouched =>
      exact wp_settle_runtime (Or.inl rfl) huntouched fun world' hunknown =>
        .of_raised hraises hunknown

theorem wp_readBoundary {symbol : Symbol} {post : Bool → Py BoundaryReads → World τ ι → Prop}
    (hpost : ∀ read world', (∀ error, read = .error error → ∃ message, error = .runtime message) →
      LeavesUnsent self world world' → post held read world') :
    Prog.wp (rowDiscipline self) post (readBoundary symbol) held world := by
  refine Proc.wp_either ((raisesOnly_readBoundary symbol).wp ?_)
  refine (quiet_readBoundary symbol).wp (rowDiscipline_lawful self) (fun reads world' hrely => ?_)
    fun error world' hrely herror => ?_
  · exact hpost _ _ nofun hrely
  · refine hpost _ _ ?_ hrely
    rintro _ ⟨⟩
    exact herror

/-- A SELL is placed without a section. -/
theorem wp_placeSide_sell (hside : request.side = .sell)
    (hunsent : Unsent self request.clientOrderId .created count world) :
    Prog.wp (rowDiscipline self)
      (fun _ _ world => Placed self request.clientOrderId count world)
      (placeSide self request) held world := by
  unfold placeSide
  rw [hside]
  exact Proc.wp_either (wp_brokerPlaceOrder_unsent hunsent (fun _ _ hplaced => hplaced)
    fun _ _ hplaced => hplaced)

/-- The submission of a reserved order, from the reservation to its end. -/
theorem wp_placeObserved (hunsent : Unsent self request.clientOrderId .created count world) :
    Prog.wp (rowDiscipline self)
      (fun _ observed world => Settled self request.clientOrderId count observed.reads world)
      (placeObserved self request) false world := by
  unfold placeObserved
  cases hside : request.side with
  | sell =>
      refine wp_observed ?_
      rw [place_eq]
      refine (Prog.wp_bind _).mpr (Prog.wp_mono ?_ (wp_placeSide_sell hside hunsent))
      intro held' placed world' hplaced
      have hpasses : ∀ read ∈ (none : Option (Py BoundaryReads)), BoundaryReads.Passes read := by
        intro read hread
        cases hread
      exact wp_settle_placed hpasses hplaced
  | buy =>
      refine ⟨rfl, fun world₁ hrely₁ => (Prog.wp_bind _).mpr ?_⟩
      refine wp_readBoundary fun read world₂ herror hrely₂ => (Prog.wp_bind _).mpr ?_
      have hunsent₂ := (hunsent.of_rely hrely₁).of_rely hrely₂
      refine Prog.wp_mono ?_ (wp_section herror hunsent₂)
      rintro _ placed world₃ ⟨rfl, hends⟩
      refine ⟨rfl, fun world₄ hrely₄ => wp_observed ?_⟩
      exact wp_settle (hends.of_rely hrely₄)

end Section

/-! ## Up to the reservation -/

section Preparation

variable {self : τ} {held : Bool} {id : ι} {before world : World τ ι}

/-- The row was sent. -/
def Sent (clientOrderId : ι) (world : World τ ι) : Prop :=
  ∃ row, world.order clientOrderId = some row ∧ row.brokerOrderId ≠ none

theorem Sent.earlier (hsent : Sent id world) : Earlier self id before world := by
  obtain ⟨row, hrow, hid⟩ := hsent
  intro row' hrow' hnone
  rw [hrow] at hrow'
  rw [Option.some.inj hrow'] at hid
  exact absurd hnone hid

theorem Earlier.refl (self : τ) (id : ι) (world : World τ ι) : Earlier self id world world :=
  fun _ hrow _ _ => hrow

theorem carries_update_sent (update : OrderUpdate) :
    Proc.Carries (rowDiscipline self) (Sent id) held
      (updateOrder id update : Action τ ι Unit) := by
  refine carries_updateOrder fun world repo' hsent hok => ?_
  obtain ⟨old, hold, hid⟩ := hsent
  have hleaves : LeavesOthers self world (world.setRepo repo') := by
    refine LeavesOthers.update (fun row hrow hnone => ?_) hok
    rw [hold] at hrow
    rw [Option.some.inj hrow] at hid
    exact absurd hnone hid
  exact ⟨hleaves, hleaves.sent id old hold hid⟩

/-- A row that was sent is refreshed, and stays sent. -/
theorem carries_submitExisting {request : OrderRequest ι} {existing : OrderRow ι} :
    Proc.Carries (rowDiscipline self) (Sent request.clientOrderId) held
      (submitExisting request existing) := by
  have hlawful := rowDiscipline_lawful (ι := ι) self
  unfold submitExisting
  cases existing.brokerOrderId with
  | none => exact .of_quiet hlawful (.pure _)
  | some orderId =>
      refine .bind (.tryCatch (.of_quiet hlawful ?_) fun error => ?_) fun refreshed => ?_
      · refine .bind (.bind (quiet_getOrder _) fun order => ?_) fun _ => .pure _
        exact .bind (.ofExcept _) fun _ => .bind (.ofExcept _) fun _ => .pure _
      · cases error with
        | brokerReceiptValidation message =>
            exact .bind (carries_update_sent _) fun _ => .of_quiet hlawful (.raise _)
        | _ => exact .of_quiet hlawful (.pure _)
      · cases refreshed with
        | none => exact .of_quiet hlawful (.pure _)
        | some receipt =>
            exact .bind (carries_update_sent _) fun _ => .of_quiet hlawful (.pure _)

/-- The submission of a row that is there leaves no unsent row behind that was not there. -/
theorem wp_submitExisting {request : OrderRequest ι} {existing : OrderRow ι}
    (hrow : world.order request.clientOrderId = some existing)
    (hearlier : Earlier self request.clientOrderId before world) :
    Proc.wp (rowDiscipline self)
      (fun held' _ world' => held' = held ∧ Earlier self request.clientOrderId before world')
      (fun held' _ world' => held' = held ∧ Earlier self request.clientOrderId before world')
      (submitExisting request existing) held world := by
  cases hid : existing.brokerOrderId with
  | none =>
      unfold submitExisting
      rw [hid]
      exact ⟨rfl, hearlier⟩
  | some orderId =>
      have hsent : Sent request.clientOrderId world := ⟨existing, hrow, by rw [hid]; exact nofun⟩
      refine carries_submitExisting.wp hsent (fun _ _ hrely hfact => ?_)
        (fun _ _ hfact => ⟨rfl, hfact.earlier⟩) fun _ _ hfact => ⟨rfl, hfact.earlier⟩
      obtain ⟨row, hrow', hid'⟩ := hfact
      exact hrely.sent _ row hrow' hid'

/-- A reservation of a row that is there changes nothing. -/
theorem reserve_of_some {request : OrderRequest ι} {now : Timestamp} {old : OrderRow ι}
    (hold : world.order request.clientOrderId = some old) :
    world.repo.reserveOrder request now = (world.repo, false) := by
  have hget : world.repo.orders.get? (request.newRow now).clientOrderId = some old := hold
  unfold Repository.reserveOrder
  rw [Table.insertOrIgnore_of_some hget]

/-- The world after a reservation that inserted its row. -/
theorem order_reserve (self : τ) {request : OrderRequest ι} (now : Timestamp)
    (hnone : world.order request.clientOrderId = none) :
    let world' := world.reserve self request.clientOrderId (world.repo.reserveOrder request now)
    (world.repo.reserveOrder request now).2 = true ∧
      world'.order request.clientOrderId = some (request.newRow now) ∧
      world'.reservedBy request.clientOrderId = some self ∧
      ∀ other, other ≠ request.clientOrderId →
        world'.order other = world.order other ∧ world'.reservedBy other = world.reservedBy other := by
  have hget : world.repo.orders.get? (request.newRow now).clientOrderId = none := hnone
  have hinserted : (world.repo.reserveOrder request now).2 = true :=
    Table.insertOrIgnore_snd.mpr hget
  refine ⟨hinserted, Table.get?_insertOrIgnore_self hget, ?_, fun other hne => ⟨?_, ?_⟩⟩
  · simp only [World.reserve, hinserted, if_true, Function.update_self]
  · exact Table.get?_insertOrIgnore_of_ne hne
  · simp only [World.reserve, hinserted, if_true, Function.update_of_ne hne]

theorem LeavesOthers.reserve {request : OrderRequest ι} {now : Timestamp}
    (hnone : world.order request.clientOrderId = none) :
    LeavesOthers self world
      (world.reserve self request.clientOrderId (world.repo.reserveOrder request now)) := by
  obtain ⟨-, hself, howner, hother⟩ := order_reserve self now hnone
  have hne : ∀ {other}, (world.order other).isSome = true → other ≠ request.clientOrderId := by
    rintro _ hsome rfl
    rw [hnone] at hsome
    cases hsome
  refine ⟨⟨fun other h => ?_, fun other h => (hother other (hne h)).2, fun other row hrow hid => ?_⟩,
    fun other row hrow _ _ => ?_, fun other h hforeign => ?_, fun _ _ => rfl⟩
  · rw [(hother other (hne h)).1]
    exact h
  · have hsome : (world.order other).isSome = true := by rw [hrow]; rfl
    exact ⟨row, (hother other (hne hsome)).1.trans hrow, hid⟩
  · have hsome : (world.order other).isSome = true := by rw [hrow]; rfl
    exact (hother other (hne hsome)).1.trans hrow
  · by_cases hid : other = request.clientOrderId
    · rw [hid] at hforeign
      exact absurd howner hforeign
    · rw [← (hother other hid).1]
      exact h

/-- A transaction that reserves the id. -/
theorem wp_reserveRow_unsent {f : Repository ι → Py (Repository ι × Bool)}
    {ok : Bool → Bool → World τ ι → Prop} {err : Bool → PyError → World τ ι → Prop}
    (hreservation : IsReservation id f)
    (hinserted : ∀ world₁ world', LeavesUnsent self world world₁ → world₁.order id = none →
      Unsent self id .created (world₁.placings id) world' → ok held true world')
    (hignored : ∀ world₁, LeavesUnsent self world world₁ → ok held false world₁)
    (herr : ∀ error world₁, LeavesUnsent self world world₁ → err held error world₁) :
    Proc.wp (rowDiscipline self) ok err (reserveRow self id f) held world := by
  refine Proc.wp_transaction (rowDiscipline_lawful self) ?_ fun world₁ error hrely _ =>
    herr error world₁ hrely
  intro world₁ world₂ inserted hrely _ hcommit
  cases hresult : f world₁.repo with
  | error error =>
      rw [hresult] at hcommit
      cases hcommit
  | ok result =>
      rw [hresult] at hcommit
      obtain ⟨rfl, rfl⟩ := Prod.mk.inj (Except.ok.inj hcommit)
      obtain ⟨request, now, rfl, rfl⟩ := hreservation world₁.repo result hresult
      cases hold : world₁.order request.clientOrderId with
      | some old =>
          rw [reserve_of_some hold]
          exact ⟨LeavesOthers.refl self world₁, trivial, hignored world₁ hrely⟩
      | none =>
          obtain ⟨hflag, hself, howner, -⟩ := order_reserve self now hold
          rw [hflag]
          refine ⟨LeavesOthers.reserve hold, trivial, hinserted world₁ _ hrely hold ?_⟩
          exact ⟨⟨_, hself, rfl, rfl⟩, howner, rfl⟩

/-- What `prepare` leaves: a row of the thread that was not there before, or none. -/
def Prepared (thread : τ) (clientOrderId : ι) (before world : World τ ι) :
    Py (OrderRequest ι ⊕ OrderReceipt ι) → Prop
  | .ok (.inl request) => request.clientOrderId = clientOrderId ∧
      before.order clientOrderId = none ∧
      Unsent thread clientOrderId .created (before.placings clientOrderId) world
  | _ => Earlier thread clientOrderId before world

/-- A row that is not there was never there, and was placed by nobody in the meantime. -/
theorem LeavesUnsent.of_none {world' : World τ ι} (hrely : LeavesUnsent self world world')
    (hnone : world'.order id = none) :
    world.order id = none ∧ world'.placings id = world.placings id := by
  constructor
  · by_contra hsome
    have hsome' := hrely.rows id (Option.isSome_iff_ne_none.mpr hsome)
    rw [hnone] at hsome'
    cases hsome'
  · refine hrely.placings id fun hsome => ?_
    rw [hnone] at hsome
    cases hsome

theorem wp_reserve_unsent {config : StrategyConfig} {settings : RuntimeSettings}
    {request : OrderRequest ι} (hrely : LeavesUnsent self before world) :
    Proc.wp (rowDiscipline self)
      (fun held' _ world' => held' = held ∧ before.order request.clientOrderId = none ∧
        Unsent self request.clientOrderId .created (before.placings request.clientOrderId) world')
      (fun held' _ world' => held' = held ∧ Earlier self request.clientOrderId before world')
      (reserve config settings self request) held world := by
  have hlawful := rowDiscipline_lawful (ι := ι) self
  have hearlier : ∀ world', LeavesUnsent self world world' →
      Earlier self request.clientOrderId before world' := fun world' hrely' =>
    (Earlier.refl self _ before).of_rely (hrely.trans hrely')
  refine Proc.wp_bind.mpr (Proc.Quiet.wp hlawful (.bind (.ofExcept _) fun _ =>
    .bind (quiet_getSystemValue _) fun _ => .raiseIf _ _) (fun _ world₁ h₁ => ?_)
      fun error world₁ h₁ => ⟨rfl, hearlier world₁ h₁⟩)
  refine Proc.wp_bind.mpr (wp_reserveSide_of hlawful (fun f world₂ hreservation h₂ => ?_)
    fun error world₂ h₂ => ⟨rfl, hearlier world₂ (LeavesUnsent.trans h₁ h₂)⟩)
  have h₂ : LeavesUnsent self world world₂ := LeavesUnsent.trans h₁ h₂
  refine wp_reserveRow_unsent hreservation (fun world₃ world' h₃ hnone hunsent => ?_)
    (fun world₃ h₃ => ?_) fun error world₃ h₃ => ⟨rfl, hearlier world₃ (h₂.trans h₃)⟩
  · obtain ⟨hbefore, hplacings⟩ := (hrely.trans (h₂.trans h₃)).of_none hnone
    rw [hplacings] at hunsent
    exact ⟨rfl, hbefore, hunsent⟩
  · exact ⟨rfl, hearlier world₃ (h₂.trans h₃)⟩

theorem wp_prepare {config : StrategyConfig} {settings : RuntimeSettings}
    {request : OrderRequest ι} :
    Prog.wp (rowDiscipline self)
      (fun held' prepared world' =>
        held' = held ∧ Prepared self request.clientOrderId world world' prepared)
      (prepare config settings self request) held world := by
  refine Proc.wp_either ?_
  cases hnormalized : normalizeSellLimitRequest request with
  | error error =>
      unfold prepare
      rw [hnormalized]
      exact ⟨rfl, Earlier.refl self _ world⟩
  | ok normalized =>
      have hid := (normalizeSellLimitRequest_ok hnormalized).1
      unfold prepare
      rw [hnormalized, ← hid]
      refine Proc.wp_bind.mpr ((Proc.wp_ofExcept_ok normalized).mpr (Proc.wp_bind.mpr
        (Proc.wp_read (rowDiscipline_lawful self) fun world₁ hrely _ => ?_)))
      cases hfound : world₁.repo.getOrderByClientId normalized.clientOrderId with
      | some existing =>
          simp only [hfound]
          have hearlier := (Earlier.refl self normalized.clientOrderId world).of_rely hrely
          exact Proc.wp_bind.mpr (wp_submitExisting hfound hearlier)
      | none =>
          simp only [hfound]
          refine Proc.wp_bind.mpr (Proc.wp_mono (wp_reserve_unsent hrely) ?_ fun _ _ _ h => h)
          rintro held' _ world₂ ⟨rfl, hbefore, hunsent⟩
          exact ⟨rfl, rfl, hbefore, hunsent⟩

end Preparation

/-! ## The submission -/

/-- Between a call that found no row and its end, an order ended UNKNOWN only if it was
placed, exactly when the section did not raise. -/
theorem Settled.unknownOnlyIfPlaced_iff {self : τ} {id : ι} {reads : Option (Py BoundaryReads)}
    {before world : World τ ι} (hbefore : before.order id = none)
    (hsettled : Settled self id (before.placings id) reads world) :
    UnknownOnlyIfPlaced self id before world ↔ ∀ read ∈ reads, BoundaryReads.Passes read := by
  constructor
  · intro honly
    by_contra hraises
    have hunknown := hsettled.raised hraises
    obtain ⟨row, hrow, hstatus, hnone⟩ := hunknown.row
    rcases honly row hrow hstatus hnone hunknown.owner with hold | hplaced
    · rw [hbefore] at hold
      cases hold
    · rw [hunknown.placings] at hplaced
      exact absurd hplaced (lt_irrefl _)
  · intro hpasses row hrow hstatus hnone _
    rcases hsettled.passed hpasses with hplaced | hrejected
    · exact Or.inr hplaced.placed
    · obtain ⟨row', hrow', hstatus', -⟩ := hrejected.row
      rw [hrow] at hrow'
      rw [Option.some.inj hrow', hstatus'] at hstatus
      cases hstatus

theorem wp_submitObserved (self : τ) (config : StrategyConfig) (settings : RuntimeSettings)
    (request : OrderRequest ι) (world : World τ ι) :
    Prog.wp (rowDiscipline self)
      (fun _ observed world' => UnknownOnlyIfPlaced self request.clientOrderId world world' ↔
        ∀ read ∈ observed.reads, BoundaryReads.Passes read)
      (submitObserved config settings self request) false world := by
  have hnothing : ∀ {world' : World τ ι} {outcome : Py (OrderReceipt ι)},
      Earlier self request.clientOrderId world world' →
        (UnknownOnlyIfPlaced self request.clientOrderId world world' ↔
          ∀ read ∈ (SubmitObservation.mk none outcome).reads, BoundaryReads.Passes read) := by
    intro world' outcome hearlier
    constructor
    · intro _ read hread
      cases hread
    · exact fun _ row hrow _ hnone howner => Or.inl (hearlier row hrow hnone howner)
  refine (Prog.wp_bind _).mpr (Prog.wp_mono ?_ wp_prepare)
  rintro _ (error | request' | receipt) world' ⟨rfl, hprepared⟩
  · exact hnothing hprepared
  · obtain ⟨hid, hbefore, hunsent⟩ := hprepared
    rw [← hid] at hbefore hunsent ⊢
    refine Prog.wp_mono ?_ (wp_placeObserved hunsent)
    exact fun _ _ _ hsettled => hsettled.unknownOnlyIfPlaced_iff hbefore
  · exact hnothing hprepared

/-- Every submission is an observed one. -/
theorem submit_among_iff {self : τ} {config : StrategyConfig} {settings : RuntimeSettings}
    {request : OrderRequest ι} {rely : Bool → World τ ι → World τ ι → Prop}
    {answers : (query : Query ι) → Answer query → Prop} {held : Bool} {world world' : World τ ι}
    {outcome : Py (OrderReceipt ι)} :
    Prog.Among rely answers (submit config settings self request) held world world' outcome ↔
      ∃ observed, (submitObserved config settings self request).Among rely answers held world world'
        observed ∧ outcome = observed.outcome := by
  rw [submit_eq]
  exact Prog.among_map

/-- Whatever the other threads and the broker do, a submission leaves its order UNKNOWN
only if it invoked `place_order`, exactly when its locked section, if it had one, could
read the halt and passed the live contract after the halt and SAFE_MODE.  And every
run of `submit` is such a run. -/
theorem unknown_only_if_placed_iff {self : τ} {config : StrategyConfig}
    {settings : RuntimeSettings} {request : OrderRequest ι} {world world' : World τ ι} :
    (∀ observed : SubmitObservation ι,
      (submitObserved config settings self request).Among (fun _ => LeavesUnsent self)
          (fun _ _ => True) false world world' observed →
        (UnknownOnlyIfPlaced self request.clientOrderId world world' ↔
          ∀ read ∈ observed.reads, BoundaryReads.Passes read)) ∧
      ∀ outcome : Py (OrderReceipt ι),
        Prog.Among (fun _ => LeavesUnsent self) (fun _ _ => True)
            (submit config settings self request) false world world' outcome ↔
          ∃ observed, (submitObserved config settings self request).Among
            (fun _ => LeavesUnsent self) (fun _ _ => True) false world world' observed ∧
              outcome = observed.outcome := by
  constructor
  · intro observed hrun
    obtain ⟨held, hpost⟩ := Prog.wp_among (fun _ => trivial)
      (wp_submitObserved self config settings request world) hrun
    exact hpost
  · exact fun outcome => submit_among_iff

/-! ## A BUY at the close -/

namespace AtTheClose

open BuyBoundary

theorem threeShares : 0 < 3 := by decide

def request : OrderRequest ℕ := (BuyRequest.core 7 .qqq 3 100 threeShares).toOrderRequest

/-- The regular session has ended, which the reservation does not ask. -/
def answer : (query : Query ℕ) → Answer query
  | .regularSession => false
  | query => BuyBoundary.answer query

def before : World Thread ℕ := World.start repo

def observed : World Thread ℕ × SubmitObservation ℕ :=
  (submitObserved .strategyYaml settings .trader request).exec answer before

theorem run : (submitObserved .strategyYaml settings .trader request).Among
    (fun _ => LeavesUnsent .trader) (fun _ _ => True) false before observed.1 observed.2 :=
  (Prog.exec_runs (fun _ => trivial) _ before).among fun _ => LeavesUnsent.refl .trader

/-- The row is UNKNOWN without a broker id, and nothing was placed. -/
theorem not_placed : ¬UnknownOnlyIfPlaced .trader 7 before observed.1 := by
  intro honly
  have hstatus : (observed.1.order 7).map OrderRow.status = some .unknown := by decide +kernel
  have hbroker : (observed.1.order 7).map OrderRow.brokerOrderId = some none := by decide +kernel
  obtain ⟨row, hrow, hunknown⟩ := Option.map_eq_some_iff.mp hstatus
  rw [hrow] at hbroker
  rcases honly row hrow hunknown (Option.some.inj hbroker) (by decide +kernel) with hold | hplaced
  · have hnone : before.order 7 = none := rfl
    rw [hnone] at hold
    cases hold
  · exact absurd hplaced (by decide +kernel)

end AtTheClose

/-- A BUY that is reserved in the regular session and submitted after its end is left
UNKNOWN without having been placed. -/
theorem buy_after_close_ends_unknown :
    ¬∀ (request : OrderRequest ℕ) (world world' : World BuyBoundary.Thread ℕ)
      (outcome : Py (OrderReceipt ℕ)),
      Prog.Among (fun _ => LeavesUnsent .trader) (fun _ _ => True)
          (submit .strategyYaml BuyBoundary.settings .trader request) false world world' outcome →
        UnknownOnlyIfPlaced .trader request.clientOrderId world world' := by
  intro hclaim
  have hrun := submit_among_iff.mpr ⟨AtTheClose.observed.2, AtTheClose.run, rfl⟩
  exact AtTheClose.not_placed (hclaim _ _ _ _ hrun)

theorem unknown_only_if_placed_iff_after_close :
    ¬∀ read ∈ AtTheClose.observed.2.reads, BoundaryReads.Passes read := by
  intro hpasses
  exact AtTheClose.not_placed ((unknown_only_if_placed_iff.1 _ AtTheClose.run).mpr hpasses)

end JdHoldings

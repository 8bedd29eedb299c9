import JdHoldings.Orders.Steps

/-!
# Submitting an order

`submit` meets the order discipline.

* The reservation makes the thread the owner of a row that was never posted
  (`wp_reserve`), and from then on nobody else can post it (`Owns.of_relies`).
* The POST is one step of the owner, and nothing after it posts again
  (`wp_placeOrder`).
* Under the lock the boundary keys stand still, so that a BUY is placed with the
  very keys its section has checked (`wp_placeBuy`).
* The branch of an existing row only reads and updates (`tame_submitExisting`).
-/

namespace JdHoldings

open OrderManager

variable {τ ι α : Type} [DecidableEq ι] {old : ι → Prop} {self : τ} {held : Bool}
  {ok : Bool → α → World τ ι → Prop} {err : Bool → PyError → World τ ι → Prop}
  {world : World τ ι}

/-! ## Ownership -/

/-- The thread has inserted the row and has not posted it, and the row is not one of
those that were there from the start. -/
structure Owns (old : ι → Prop) (thread : τ) (clientOrderId : ι) (world : World τ ι) : Prop where
  reserved : world.Reserved clientOrderId
  owner : world.reservedBy clientOrderId = some thread
  unposted : world.posts clientOrderId = 0
  new : ¬old clientOrderId

theorem Owns.of_relies {id : ι} {world' : World τ ι} (howns : Owns old self id world)
    (hrelies : Relies self held world world') : Owns old self id world' where
  reserved := hrelies.rows id howns.reserved
  owner := (hrelies.owner id howns.reserved).trans howns.owner
  unposted := (hrelies.posts id howns.reserved howns.owner).trans howns.unposted
  new := howns.new

theorem Owns.record {id : ι} (howns : Owns old self id world) {event : Event τ ι}
    (hpost : ∀ id, event.isPostOf id = false) : Owns old self id (world.record event) where
  reserved := howns.reserved
  owner := howns.owner
  unposted := by simp [World.posts_record, hpost, howns.unposted]
  new := howns.new

/-- A reservation keeps the discipline, and one that inserted makes its thread the
owner. -/
theorem OrderInvariant.reserve (hinvariant : OrderInvariant old world) (request : OrderRequest ι)
    (now : Timestamp) :
    let result := world.repo.reserveOrder request now
    let world' := world.reserve self request.clientOrderId result
    Keeps self held world world' ∧ OrderInvariant old world' ∧
      (result.2 = true → Owns old self request.clientOrderId world') := by
  intro result world'
  have hrows : ∀ id, world.Reserved id → world'.Reserved id := fun id h =>
    Table.isSome_get?_insertOrIgnore h
  -- Only an id without a row is inserted.
  have hfree : result.2 = true → ¬world.Reserved request.clientOrderId := fun hinserted h => by
    have hnone := Table.insertOrIgnore_snd.mp hinserted
    rw [World.Reserved, show request.clientOrderId = (request.newRow now).clientOrderId from rfl,
      hnone] at h
    cases h
  refine ⟨⟨hrows, fun id h => ?_, fun _ _ => rfl, fun _ => rfl,
    List.suffix_rfl⟩, ?_, fun hinserted => ?_⟩
  · show (if result.2 then Function.update world.reservedBy request.clientOrderId (some self)
      else world.reservedBy) id = world.reservedBy id
    split
    · rename_i hinserted
      refine Function.update_of_ne ?_ _ _
      rintro rfl
      exact hfree hinserted h
    · rfl
  · exact {
      once := hinvariant.once
      reserved := fun id h => hrows id (hinvariant.reserved id h)
      old := fun id h => ⟨hrows id (hinvariant.old id h).1, (hinvariant.old id h).2⟩
      halted := hinvariant.halted
      placings := hinvariant.placings }
  · have hnone := Table.insertOrIgnore_snd.mp hinserted
    refine ⟨?_, ?_, ?_, fun h => hfree hinserted (hinvariant.old _ h).1⟩
    · have hself := Table.get?_insertOrIgnore_self hnone
      exact Option.isSome_iff_exists.mpr ⟨_, hself⟩
    · show (if result.2 then Function.update world.reservedBy request.clientOrderId (some self)
        else world.reservedBy) request.clientOrderId = some self
      rw [if_pos hinserted, Function.update_self]
    · -- A posted id has its row, so this one was never posted.
      by_contra hposted
      exact hfree hinserted (hinvariant.reserved _ hposted)

/-- The order-creating POST is a step its owner may take once. -/
theorem OrderInvariant.post {request : OrderRequest ι} (hinvariant : OrderInvariant old world)
    (howns : Owns old self request.clientOrderId world) :
    Keeps self held world (world.record (.sent self .post (.createOrder request))) ∧
      OrderInvariant old (world.record (.sent self .post (.createOrder request))) := by
  have hother : ∀ id, id ≠ request.clientOrderId →
      (world.record (.sent self .post (.createOrder request))).posts id = world.posts id :=
    fun id hne => by simp [World.posts_record, Event.isPostOf, Ne.symm hne]
  have hself : (world.record (.sent self .post (.createOrder request))).posts request.clientOrderId
      = 1 := by
    simp [World.posts_record, Event.isPostOf, howns.unposted]
  refine ⟨⟨fun _ h => h, fun _ _ => rfl, fun id hid => hother id ?_, fun _ => rfl,
    List.suffix_cons _ _⟩, ?_⟩
  · rintro rfl
    exact hid ⟨howns.reserved, howns.owner⟩
  · exact {
      once := fun id => by
        by_cases hid : id = request.clientOrderId
        · rw [hid, hself]
        · rw [hother id hid]
          exact hinvariant.once id
      reserved := fun id h => by
        by_cases hid : id = request.clientOrderId
        · rw [hid]
          exact howns.reserved
        · rw [hother id hid] at h
          exact hinvariant.reserved id h
      old := fun id h => by
        have hid : id ≠ request.clientOrderId := by
          rintro rfl
          exact howns.new h
        rw [hother id hid]
        exact hinvariant.old id h
      halted := hinvariant.halted
      placings := hinvariant.placings }

/-! ## Placing -/

/-- The end of a POST: whatever comes back, it is not replayed. -/
private theorem tame_afterPost {path : ApiRequest ι} (response : HttpResponse ι) :
    Proc.Tame (orderDiscipline old self) held
      (if response.statusCode = 401 then do
        let refreshed ← TossClient.refreshToken
        if HttpMethod.post.isSafe && refreshed then TossClient.request self .post path 0
        else throw (.tossApi (TossClient.apiError response))
      else Proc.ofExcept (TossClient.finish response)) := by
  refine .ite (fun _ => ?_) fun _ => tame_of_quiet (.ofExcept _)
  refine .bind (tame_of_quiet quiet_refreshToken) fun refreshed => ?_
  exact .ite (fun h => absurd h (by simp [HttpMethod.isSafe])) fun _ => tame_of_quiet (.raise _)

/-- The request that creates the order is sent once. -/
theorem wp_request_post {request : OrderRequest ι}
    {ok : Bool → JsonResult ι → World τ ι → Prop}
    (howns : Owns old self request.clientOrderId world)
    (hok : ∀ result world', ok held result world') (herr : ∀ error world', err held error world') :
    Proc.wp (orderDiscipline old self) ok err
      (TossClient.request self .post (.createOrder request) 1) held world := by
  have hlawful := orderDiscipline_lawful old self
  simp only [TossClient.request, TossClient.sessionRequest]
  refine Proc.wp_bind.mpr (Proc.wp_bind.mpr ?_)
  refine Proc.Quiet.wp hlawful (quiet_authenticate false) ?_ fun error _ _ => herr error _
  intro _ world₁ hrelies₁
  refine Proc.wp_bind.mpr (Proc.wp_modify fun world₂ hrelies₂ hinvariant => ?_)
  -- The POST itself.
  have howns₂ := (howns.of_relies hrelies₁).of_relies hrelies₂
  obtain ⟨hkeeps, hinvariant'⟩ : Keeps self held world₂ _ ∧ _ := hinvariant.post howns₂
  refine ⟨hkeeps, hinvariant', ?_⟩
  refine Proc.Tame.wp (.bind (tame_of_quiet (.ask _)) fun outcome =>
    .bind (tame_record rfl) fun _ => tame_of_quiet ?_) ?_ fun error _ => herr error _
  · cases outcome <;> trivial
  · intro response world'
    exact (tame_afterPost response).wp hok herr

/-- What follows the POST never posts again. -/
theorem wp_placeOrder {request : OrderRequest ι} {ok : Bool → OrderReceipt ι → World τ ι → Prop}
    (howns : Owns old self request.clientOrderId world)
    (hok : ∀ receipt world', ok held receipt world')
    (herr : ∀ error world', err held error world') :
    Proc.wp (orderDiscipline old self) ok err (TossClient.placeOrder self request) held world := by
  have hlawful := orderDiscipline_lawful old self
  refine Proc.wp_bind.mpr (Proc.Quiet.wp hlawful (.ofExcept _) ?_ fun error _ _ => herr error _)
  intro _ world₁ hrelies₁
  refine Proc.wp_bind.mpr (wp_request_post (howns.of_relies hrelies₁) ?_ herr)
  intro result world'
  exact (tame_of_quiet (.ofExcept _)).wp hok herr

/-! ## The checks of a BUY -/

section Checks

/-- A read: the others may have moved, and the value is the current one. -/
theorem wp_getSystemValue {key : SystemState → α}
    (hok : ∀ world', Relies self held world world' → OrderInvariant old world' →
      ok held (key world'.repo.system) world') :
    Proc.wp (orderDiscipline old self) ok err (getSystemValue key) held world :=
  Proc.wp_read (orderDiscipline_lawful old self) hok

theorem wp_buyIsHalted {ok : Bool → Bool → World τ ι → Prop}
    (hok : ∀ halted world', Relies self held world world' →
      world'.repo.system.operatorBuyHalt = some halted → ok held halted world')
    (herr : ∀ error world', err held error world') :
    Proc.wp (orderDiscipline old self) ok err buyIsHalted held world := by
  refine Proc.wp_bind.mpr (wp_getSystemValue fun world' hrelies _ => ?_)
  cases hhalt : world'.repo.system.operatorBuyHalt with
  | none => exact herr _ world'
  | some halted => exact hok halted world' hrelies hhalt

theorem wp_readSafeMode {symbol : Symbol} {ok : Bool → SafeModeView → World τ ι → Prop}
    (hok : ∀ view world', Relies self held world world' →
      (view.blocked = false → ∀ enabled, symbol.enabled? = some enabled →
        ∃ state, view.position = some state) → ok held view world') :
    Proc.wp (orderDiscipline old self) ok err (readSafeMode symbol) held world := by
  refine Proc.wp_bind.mpr (wp_getSystemValue fun world' hrelies _ => ?_)
  by_cases hflag : world'.repo.system.portfolioSafeMode = some true
  · rw [if_pos hflag]
    refine hok _ world' hrelies fun hblocked => ?_
    simp [SafeModeView.blocked, hflag] at hblocked
  · rw [if_neg hflag]
    cases hsymbol : symbol.enabled? with
    | none =>
        refine hok _ world' hrelies fun _ enabled h => ?_
        rw [hsymbol] at h
        cases h
    | some enabled =>
        refine Proc.wp_bind.mpr (Proc.wp_read (orderDiscipline_lawful old self) ?_)
        intro world'' hrelies' _
        exact hok _ world'' (hrelies.trans hrelies') fun _ _ _ => ⟨_, rfl⟩

/-- Under the lock the guard reads the boundary keys as they are. -/
theorem wp_readGuardView {ok : Bool → GuardView → World τ ι → Prop}
    {err : Bool → PyError → World τ ι → Prop}
    (hok : ∀ view world', Relies self true world world' →
      view.launchAuthorized = world'.repo.system.launchAuthorized →
      view.startupQuarantine = world'.repo.system.startupQuarantine →
      view.operatorHaltLatched = world'.repo.system.operatorHaltLatched → ok true view world') :
    Proc.wp (orderDiscipline old self) ok err readGuardView true world := by
  unfold readGuardView
  refine Proc.wp_bind.mpr (wp_getSystemValue fun world₁ h₁ _ => ?_)
  refine Proc.wp_bind.mpr (wp_getSystemValue fun world₂ h₂ _ => ?_)
  refine Proc.wp_bind.mpr (wp_getSystemValue fun world₃ h₃ _ => ?_)
  refine Proc.wp_bind.mpr (wp_getSystemValue fun world₄ h₄ _ => ?_)
  refine Proc.wp_bind.mpr (wp_getSystemValue fun world₅ h₅ _ => ?_)
  refine Proc.wp_bind.mpr (wp_getSystemValue fun world₆ h₆ _ => ?_)
  refine Proc.wp_bind.mpr (wp_getSystemValue fun world₇ h₇ _ => ?_)
  refine Proc.wp_bind.mpr (wp_getSystemValue fun world₈ h₈ _ => ?_)
  refine Proc.wp_bind.mpr (wp_getSystemValue fun world₉ h₉ _ => ?_)
  refine Proc.wp_bind.mpr (wp_getSystemValue fun world₁₀ h₁₀ _ => ?_)
  refine Proc.wp_bind.mpr (wp_getSystemValue fun world₁₁ h₁₁ _ => ?_)
  refine Proc.wp_bind.mpr (wp_getSystemValue fun world₁₂ h₁₂ _ => ?_)
  have hrest := ((((((h₆.trans h₇).trans h₈).trans h₉).trans h₁₀).trans h₁₁).trans h₁₂)
  have hlatch := congrArg BoundaryKeys.operatorHaltLatched (hrest.boundary rfl)
  have hquarantine := congrArg BoundaryKeys.startupQuarantine ((h₅.trans hrest).boundary rfl)
  have hlaunch := congrArg BoundaryKeys.launchAuthorized (((h₄.trans h₅).trans hrest).boundary rfl)
  exact hok _ world₁₂ (((((h₁.trans h₂).trans h₃).trans h₄).trans h₅).trans hrest)
    hlaunch.symm hquarantine.symm hlatch.symm

theorem GuardView.requireFlags_of_ok {view : GuardView} {finalSubmission regularSession : Bool}
    (hok : view.requireLiveAutoBuyContract finalSubmission regularSession = .ok ()) :
    view.launchAuthorized = some true ∧ view.startupQuarantine = some false ∧
      view.operatorHaltLatched = some false ∧ view.autoState = some .running := by
  simp only [GuardView.requireLiveAutoBuyContract, GuardView.requireFlags, Except.bind_eq_ok,
    raiseIf_eq_ok, ne_eq, not_not] at hok
  obtain ⟨_, ⟨_, -, _, -, _, hlaunch, _, hquarantine, _, hlatch, hstate⟩, -⟩ := hok
  exact ⟨hlaunch, hquarantine, hlatch, hstate⟩

theorem wp_requireLiveAutoContract {ok : Bool → GuardView → World τ ι → Prop}
    {err : Bool → PyError → World τ ι → Prop} {finalSubmission : Bool}
    (hok : ∀ view world', Relies self true world world' → view.autoState = some .running →
      world'.repo.system.launchAuthorized = some true →
      world'.repo.system.startupQuarantine = some false →
      world'.repo.system.operatorHaltLatched = some false → ok true view world')
    (herr : ∀ error world', err true error world') :
    Proc.wp (orderDiscipline old self) ok err (requireLiveAutoContract finalSubmission) true
      world := by
  have hlawful := orderDiscipline_lawful old self
  refine Proc.wp_bind.mpr (wp_readGuardView fun view world₁ h₁ hlaunch hquarantine hlatch => ?_)
  refine Proc.wp_bind.mpr (Proc.wp_ask fun regularSession world₂ _ h₂ => ?_)
  cases hcontract : view.requireLiveAutoBuyContract finalSubmission regularSession with
  | error error => exact herr error world₂
  | ok _ =>
      obtain ⟨hlaunch', hquarantine', hlatch', hstate⟩ := view.requireFlags_of_ok hcontract
      have hboundary := Relies.boundary h₂ rfl
      have hl := congrArg BoundaryKeys.launchAuthorized hboundary
      have hq := congrArg BoundaryKeys.startupQuarantine hboundary
      have ho := congrArg BoundaryKeys.operatorHaltLatched hboundary
      exact hok view world₂ (h₁.trans h₂) hstate (hl.trans (hlaunch.symm.trans hlaunch'))
        (hq.trans (hquarantine.symm.trans hquarantine')) (ho.trans (hlatch.symm.trans hlatch'))

end Checks

/-! ## The BUY section -/

omit [DecidableEq ι] in
theorem SystemState.boundary_eq_opened {system : SystemState}
    (hhalt : system.operatorBuyHalt = some false) (hlatch : system.operatorHaltLatched = some false)
    (hquarantine : system.startupQuarantine = some false)
    (hlaunch : system.launchAuthorized = some true) : system.boundary = BoundaryKeys.opened := by
  rw [SystemState.boundary, hhalt, hlatch, hquarantine, hlaunch]
  rfl

/-- A BUY that has passed the checks of its section is placed with the boundary open. -/
theorem wp_brokerPlaceOrder {request : OrderRequest ι} {checks : Option BoundaryChecks}
    (howns : Owns old self request.clientOrderId world)
    (hchecked : request.side = .buy → held = true ∧
      world.repo.system.boundary = BoundaryKeys.opened ∧
      ∃ passed, checks = some passed ∧ passed.Passed request.symbol) :
    Proc.wp (orderDiscipline old self) (fun held' _ _ => held' = held)
      (fun held' _ _ => held' = held) (brokerPlaceOrder self request checks) held world := by
  refine Proc.wp_bind.mpr (Proc.wp_modify fun world₁ h₁ hinvariant => ?_)
  have hplacing : request.side = .buy → world₁.repo.system.boundary = BoundaryKeys.opened ∧
      shut world₁.log = false ∧ ∃ passed, checks = some passed ∧ passed.Passed request.symbol := by
    intro hbuy
    obtain ⟨hheld, hopen, hpassed⟩ := hchecked hbuy
    have hopen₁ := (Relies.boundary h₁ hheld).trans hopen
    refine ⟨hopen₁, ?_, hpassed⟩
    -- While BUY is shut the halt is on, and it is off.
    by_contra hshut
    have hhalt := hinvariant.halted (eq_true_of_ne_false hshut)
    have hfree := congrArg BoundaryKeys.operatorBuyHalt hopen₁
    exact absurd (hhalt.symm.trans hfree) (by decide)
  have hplacings : Placings (.placing self request world₁.repo.system checks :: world₁.log) :=
    ⟨hplacing, hinvariant.placings⟩
  obtain ⟨hkeeps, hinvariant'⟩ :
      Keeps self held world₁ (world₁.record (.placing self request world₁.repo.system checks)) ∧ _ :=
    hinvariant.record (fun _ => rfl) hinvariant.halted hplacings
  have howns₁ : Owns old self request.clientOrderId world₁ := howns.of_relies h₁
  exact ⟨hkeeps, hinvariant',
    wp_placeOrder (howns₁.record fun _ => rfl) (fun _ _ => rfl) fun _ _ => rfl⟩

theorem tame_rejectAtBoundary (clientOrderId : ι) (message : String) :
    Proc.Tame (orderDiscipline (ι := ι) old self) held (rejectAtBoundary clientOrderId message) :=
  .bind (tame_updateOrder _ _) fun _ => tame_of_quiet (.raise _)

/-- The section keeps the lock from its first check to the end of the POST. -/
theorem wp_placeBuy {request : OrderRequest ι} (howns : Owns old self request.clientOrderId world) :
    Proc.wp (orderDiscipline old self) (fun held' _ _ => held' = true)
      (fun held' _ _ => held' = true) (placeBuy self request) true world := by
  have hreject : ∀ message world', Proc.wp (orderDiscipline old self) (fun held' _ _ => held' = true)
      (fun held' _ _ => held' = true) (rejectAtBoundary request.clientOrderId message) true world' :=
    fun message world' => (tame_rejectAtBoundary _ message).wp (fun _ _ => rfl) fun _ _ => rfl
  refine Proc.wp_bind.mpr (wp_buyIsHalted (fun halted world₁ h₁ hhalt => ?_) fun _ _ => rfl)
  cases halted with
  | true => exact hreject _ world₁
  | false =>
      refine Proc.wp_bind.mpr (wp_readSafeMode fun view world₂ h₂ hread => ?_)
      cases hblocked : view.blocked with
      | true => exact hreject _ world₂
      | false =>
          rw [if_neg Bool.false_ne_true]
          refine Proc.wp_bind.mpr (wp_requireLiveAutoContract ?_ fun _ _ => rfl)
          intro guard world₃ h₃ hstate hlaunch hquarantine hlatch
          refine wp_brokerPlaceOrder (((howns.of_relies h₁).of_relies h₂).of_relies h₃) ?_
          intro _
          have hkept := congrArg BoundaryKeys.operatorBuyHalt ((h₂.trans h₃).boundary rfl)
          obtain ⟨hportfolio, hnotSafe⟩ := SafeModeView.blocked_eq_false.mp hblocked
          refine ⟨rfl, SystemState.boundary_eq_opened (hkept.trans hhalt) hlatch hquarantine hlaunch,
            _, rfl, hstate, hportfolio, fun enabled hsymbol => ?_⟩
          obtain ⟨state, hposition⟩ := hread hblocked enabled hsymbol
          refine ⟨state, hposition, ?_⟩
          rintro rfl
          exact hnotSafe hposition

/-! ## The whole submission -/

theorem tame_recordFailure (request : OrderRequest ι) (error : PyError) :
    Proc.Tame (orderDiscipline old self) held (recordFailure request error) := by
  cases error with
  | tossApi apiError => exact .bind (tame_updateOrder _ _) fun _ => tame_of_quiet (.raise _)
  | _ =>
      refine .bind (tame_of_quiet (quiet_readRepo _)) fun stored => ?_
      refine .ite (fun _ => tame_of_quiet (.raise _)) fun _ => ?_
      exact .bind (tame_updateOrder _ _) fun _ => tame_of_quiet (.raise _)

/-- The submission, under the lock for a BUY. -/
private theorem wp_placeSide {request : OrderRequest ι}
    (howns : Owns old self request.clientOrderId world) :
    Proc.wp (orderDiscipline old self) (fun held' _ _ => held' = false)
      (fun held' _ _ => held' = false) (placeSide self request) false world := by
  unfold placeSide
  cases hside : request.side with
  | buy =>
      refine Proc.wp_withLock fun world₁ h₁ => Proc.wp_mono (wp_placeBuy (howns.of_relies h₁)) ?_ ?_
      · exact fun _ _ _ h => ⟨h, fun _ _ => rfl⟩
      · exact fun _ _ _ h => ⟨h, fun _ _ => rfl⟩
  | sell => exact wp_brokerPlaceOrder howns fun hbuy => absurd (hside.symm.trans hbuy) (by decide)

/-- The owner places its row, and gives the lock back. -/
theorem wp_place {request : OrderRequest ι} (howns : Owns old self request.clientOrderId world) :
    Proc.wp (orderDiscipline old self) (fun held' _ _ => held' = false)
      (fun held' _ _ => held' = false) (place self request) false world := by
  have hplaced : Proc.wp (orderDiscipline old self) (fun held' _ _ => held' = false)
      (fun held' _ _ => held' = false) (placeAndValidate self request) false world := by
    refine Proc.wp_bind.mpr (Proc.wp_mono (wp_placeSide howns) ?_ fun _ _ _ h => h)
    rintro _ receipt world' rfl
    exact (tame_of_quiet (.bind (.ofExcept _) fun _ => .pure receipt)).wp (fun _ _ => rfl)
      fun _ _ => rfl
  have hcaught : Proc.wp (orderDiscipline old self) (fun held' _ _ => held' = false)
      (fun held' _ _ => held' = false)
      (tryCatchThe PyError (placeAndValidate self request) (recordFailure request)) false world := by
    refine Proc.wp_tryCatch.mpr (Proc.wp_mono hplaced (fun _ _ _ h => h) ?_)
    rintro _ error world' rfl
    exact (tame_recordFailure request error).wp (fun _ _ => rfl) fun _ _ => rfl
  refine Proc.wp_bind.mpr (Proc.wp_mono hcaught ?_ fun _ _ _ h => h)
  rintro _ receipt world' rfl
  exact Proc.Tame.wp (.bind (tame_updateOrder _ _) fun _ => tame_of_quiet (.pure receipt))
    (fun _ _ => rfl) fun _ _ => rfl

/-- A reservation of the id, or a program that ends without one. -/
theorem wp_reserveRow {clientOrderId : ι} {f : Repository ι → Py (Repository ι × Bool)}
    {ok : Bool → Bool → World τ ι → Prop}
    (hf : ∀ repo result, f repo = .ok result → ∃ (request : OrderRequest ι) (now : Timestamp),
      request.clientOrderId = clientOrderId ∧ result = repo.reserveOrder request now)
    (hok : ∀ inserted world', (inserted = true → Owns old self clientOrderId world') →
      ok held inserted world') (herr : ∀ error world', err held error world') :
    Proc.wp (orderDiscipline old self) ok err (reserveRow self clientOrderId f) held world := by
  refine Proc.wp_transaction (orderDiscipline_lawful old self) ?_ fun world₁ error _ _ =>
    herr error world₁
  intro world₁ world₂ inserted _ hinvariant hcommit
  cases hresult : f world₁.repo with
  | error error => rw [hresult] at hcommit; cases hcommit
  | ok result =>
      rw [hresult] at hcommit
      obtain ⟨rfl, rfl⟩ := Prod.mk.inj (Except.ok.inj hcommit)
      obtain ⟨request, now, rfl, rfl⟩ := hf world₁.repo result hresult
      obtain ⟨hkeeps, hinvariant', howns⟩ :
        Keeps self held world₁ _ ∧ _ := OrderInvariant.reserve hinvariant request now
      exact ⟨hkeeps, hinvariant', hok _ _ howns⟩

omit [DecidableEq ι] in
theorem OrderRequest.asBuy?_id {request : OrderRequest ι} {buy : BuyRequest ι}
    (hbuy : request.asBuy? = some buy) :
    buy.toOrderRequest.clientOrderId = request.clientOrderId := by
  unfold OrderRequest.asBuy? at hbuy
  split at hbuy
  · split at hbuy
    · obtain rfl := Option.some.inj hbuy
      rfl
    · cases hbuy
  · cases hbuy

section Quiet

omit [DecidableEq ι]

/-- The reads before a BUY is reserved; what they find does not matter here. -/
theorem quiet_readGuardView : Proc.Quiet (readGuardView : Action τ ι GuardView) := by
  unfold readGuardView
  iterate 12 refine .bind (quiet_getSystemValue _) fun _ => ?_
  exact .pure _

theorem quiet_buyIsHalted : Proc.Quiet (buyIsHalted : Action τ ι Bool) := by
  refine .bind (quiet_getSystemValue _) fun value => ?_
  cases value <;> trivial

theorem quiet_readSafeMode (symbol : Symbol) :
    Proc.Quiet (readSafeMode symbol : Action τ ι SafeModeView) := by
  refine .bind (quiet_getSystemValue _) fun flag => .ite (fun _ => .pure _) fun _ => ?_
  cases symbol.enabled? with
  | none => exact .pure _
  | some enabled => exact .bind (quiet_readRepo _) fun _ => .pure _

theorem quiet_requireLiveAutoContract (finalSubmission : Bool) :
    Proc.Quiet (requireLiveAutoContract finalSubmission : Action τ ι GuardView) :=
  .bind quiet_readGuardView fun _ => .bind (.ask _) fun _ => .bind (.ofExcept _) fun _ => .pure _

end Quiet

/-- A transaction that can do nothing but reserve the id. -/
def IsReservation (clientOrderId : ι) (f : Repository ι → Py (Repository ι × Bool)) : Prop :=
  ∀ repo result, f repo = .ok result → ∃ (request : OrderRequest ι) (now : Timestamp),
    request.clientOrderId = clientOrderId ∧ result = repo.reserveOrder request now

/-- Before the row is reserved, either side only reads and asks. -/
theorem wp_reserveSide_of {D : Prog.Discipline (World τ ι) (Query ι) Answer} (hlawful : D.Lawful)
    {config : StrategyConfig} {request : OrderRequest ι} {ok : Bool → Bool → World τ ι → Prop}
    (hrow : ∀ f world', IsReservation request.clientOrderId f → D.rely held world world' →
      Proc.wp D ok err (reserveRow self request.clientOrderId f) held world')
    (herr : ∀ error world', D.rely held world world' → err held error world') :
    Proc.wp D ok err (reserveSide config self request) held world := by
  unfold reserveSide
  cases request.side with
  | buy =>
      refine Proc.wp_bind.mpr (quiet_buyIsHalted.wp hlawful (fun halted world₁ h₁ => ?_) herr)
      refine Proc.wp_bind.mpr ((Proc.Quiet.raiseIf _ _).wp hlawful (fun _ world₂ h₂ => ?_)
        fun error world₂ h₂ => herr error world₂ (hlawful.rely_trans h₁ h₂))
      have h₂ := hlawful.rely_trans h₁ h₂
      refine Proc.wp_bind.mpr ((quiet_readSafeMode _).wp hlawful (fun safeMode world₃ h₃ => ?_)
        fun error world₃ h₃ => herr error world₃ (hlawful.rely_trans h₂ h₃))
      have h₃ := hlawful.rely_trans h₂ h₃
      refine Proc.wp_bind.mpr ((Proc.Quiet.raiseIf _ _).wp hlawful (fun _ world₄ h₄ => ?_)
        fun error world₄ h₄ => herr error world₄ (hlawful.rely_trans h₃ h₄))
      have h₄ := hlawful.rely_trans h₃ h₄
      refine Proc.wp_bind.mpr ((quiet_requireLiveAutoContract _).wp hlawful (fun _ world₅ h₅ => ?_)
        fun error world₅ h₅ => herr error world₅ (hlawful.rely_trans h₄ h₅))
      have h₅ := hlawful.rely_trans h₄ h₅
      cases hbuy : request.asBuy? with
      | none => exact herr _ world₅ h₅
      | some buy =>
          refine Proc.wp_bind.mpr (quiet_getBuyingPower.wp hlawful
            (fun brokerAvailable world₆ h₆ => ?_)
            fun error world₆ h₆ => herr error world₆ (hlawful.rely_trans h₅ h₆))
          have h₆ := hlawful.rely_trans h₅ h₆
          refine Proc.wp_bind.mpr (Proc.wp_ask fun now world₇ _ h₇ => ?_)
          refine hrow _ world₇ (fun repo result hresult => ?_) (hlawful.rely_trans h₆ h₇)
          obtain ⟨-, rfl⟩ := Repository.reserveBuyOrderWithManagedCash_ok hresult
          exact ⟨buy.toOrderRequest, now, OrderRequest.asBuy?_id hbuy, rfl⟩
  | sell =>
      refine Proc.wp_bind.mpr (Proc.wp_ask fun now world₁ _ h₁ => ?_)
      refine hrow _ world₁ (fun repo result hresult => ?_) h₁
      exact ⟨request, now, rfl, (Except.ok.inj hresult).symm⟩

/-- The reservation of either side ends with the row in the hands of the thread, or
without a row of its making. -/
theorem wp_reserveSide {config : StrategyConfig} {request : OrderRequest ι}
    {ok : Bool → Bool → World τ ι → Prop}
    (hok : ∀ inserted world', (inserted = true → Owns old self request.clientOrderId world') →
      ok held inserted world') (herr : ∀ error world', err held error world') :
    Proc.wp (orderDiscipline old self) ok err (reserveSide config self request) held world :=
  wp_reserveSide_of (orderDiscipline_lawful old self)
    (fun _ _ hreservation _ => wp_reserveRow hreservation hok herr) fun error world' _ =>
      herr error world'

theorem wp_reserve {config : StrategyConfig} {settings : RuntimeSettings}
    {request : OrderRequest ι} {ok : Bool → Unit → World τ ι → Prop}
    (hok : ∀ world', Owns old self request.clientOrderId world' → ok held () world')
    (herr : ∀ error world', err held error world') :
    Proc.wp (orderDiscipline old self) ok err (reserve config settings self request) held
      world := by
  have hlawful := orderDiscipline_lawful old self
  refine Proc.wp_bind.mpr (Proc.Quiet.wp hlawful (.bind (.ofExcept _) fun _ =>
    .bind (quiet_getSystemValue _) fun _ => .raiseIf _ _) (fun _ world₁ _ => ?_)
      fun error _ _ => herr error _)
  refine Proc.wp_bind.mpr (wp_reserveSide (fun inserted world₂ howns => ?_) herr)
  refine Proc.wp_raiseIf (fun hinserted => ?_) fun _ => herr _ world₂
  exact hok world₂ (howns (eq_true_of_ne_false hinserted))

/-- An existing row is only read and updated. -/
theorem tame_submitExisting (request : OrderRequest ι) (existing : OrderRow ι) :
    Proc.Tame (orderDiscipline old self) held (submitExisting request existing) := by
  unfold submitExisting
  cases existing.brokerOrderId with
  | none => exact tame_of_quiet (.pure _)
  | some orderId =>
      refine .bind (.tryCatch (tame_of_quiet ?_) fun error => ?_) fun refreshed => ?_
      · refine .bind (.bind (quiet_getOrder _) fun order => ?_) fun _ => .pure _
        exact .bind (.ofExcept _) fun _ => .bind (.ofExcept _) fun _ => .pure _
      · cases error with
        | brokerReceiptValidation message =>
            exact .bind (tame_updateOrder _ _) fun _ => tame_of_quiet (.raise _)
        | _ => exact tame_of_quiet (.pure _)
      · cases refreshed with
        | none => exact tame_of_quiet (.pure _)
        | some receipt => exact .bind (tame_updateOrder _ _) fun _ => tame_of_quiet (.pure _)

/-- Every submission of every order keeps to the discipline. -/
theorem safe_submit (config : StrategyConfig) (settings : RuntimeSettings)
    (request : OrderRequest ι) :
    Proc.Safe (orderDiscipline old self) (submit config settings self request) := by
  have hlawful := orderDiscipline_lawful (ι := ι) old self
  refine .bind (.of_quiet hlawful (.ofExcept _)) fun normalized => ?_
  refine .bind (.of_quiet hlawful (quiet_readRepo _)) fun found => ?_
  cases found with
  | some existing => exact .of_tame (tame_submitExisting normalized existing)
  | none =>
      intro world
      refine Proc.wp_bind.mpr (wp_reserve (fun world₁ howns => ?_) fun _ _ => rfl)
      exact wp_place howns

end JdHoldings

import JdHoldings.Orders.Submit
import JdHoldings.Safety.Latch

/-!
# Plain steps of the services under the latch discipline

Nearly every step leaves the two keys alone and moves nothing in the log that the
discipline looks at (`Invariant.plain`), so that a submission is walked through once,
and so are the requests a halt makes, with whatever fact they carry along.
-/

namespace JdHoldings

namespace Latch

variable {τ ι α : Type} [DecidableEq τ] {self : Caller τ} {held : Bool}
  {world world' : World (Caller τ) ι}

/-! ## Logs -/

omit [DecidableEq τ] in
/-- The event moves no halt, and is not the return of one. -/
def isPlain : Event (Caller τ) ι → Bool
  | .closed _ | .reopened _ => false
  | .returned thread => decide (thread.2 ≠ .halt)
  | _ => true

omit [DecidableEq τ] in
theorem isGate_of_isPlain {event : Event (Caller τ) ι} (hplain : isPlain event = true) :
    isGate event = false := by
  cases event with
  | closed thread => cases hplain
  | reopened thread => cases hplain
  | _ => rfl

omit [DecidableEq τ] in
theorem isResume_of_isPlain {event : Event (Caller τ) ι} (hplain : isPlain event = true) :
    isResume event = false := by
  cases event with
  | reopened thread => cases hplain
  | _ => rfl

theorem isClosingOf_of_isPlain {event : Event (Caller τ) ι} (hplain : isPlain event = true)
    (other : Caller τ) : isClosingOf other event = false := by
  cases event with
  | closed thread => cases hplain
  | _ => rfl

omit [DecidableEq τ] in
theorem resumes_append (new log : List (Event (Caller τ) ι)) :
    resumes (new ++ log) = resumes new + resumes log := List.countP_append

omit [DecidableEq τ] in
/-- Cutting a longer log at an event that is not new. -/
theorem split_of_notMem {new log later earlier : List (Event (Caller τ) ι)}
    {event : Event (Caller τ) ι} (hsplit : new ++ log = later ++ event :: earlier)
    (hnew : event ∉ new) : ∃ rest, later = new ++ rest ∧ log = rest ++ event :: earlier := by
  rcases List.append_eq_append_iff.mp hsplit with ⟨rest, hlater, hlog⟩ | ⟨rest, hfront, hback⟩
  · exact ⟨rest, hlater, hlog⟩
  · cases rest with
    | nil =>
        refine ⟨[], by simpa using hfront.symm, ?_⟩
        simpa using hback.symm
    | cons first rest =>
        obtain ⟨rfl, -⟩ := List.cons.inj hback
        exact absurd (hfront ▸ List.mem_append_right _ List.mem_cons_self) hnew

theorem notMem_closed {new : List (Event (Caller τ) ι)} {other : Caller τ}
    (hnone : closings other new = 0) : .closed other ∉ new := by
  intro hmem
  have hfalse := List.countP_eq_zero.mp hnone _ hmem
  simp [isClosingOf] at hfalse

/-! ## Plain steps -/

/-- A step that leaves the keys alone and notes plain events only. -/
theorem Invariant.plain (hinvariant : Invariant world)
    (hkeys : world'.repo.system.haltKeys = world.repo.system.haltKeys)
    (henabled : world'.repo.system.autoEnabled = world.repo.system.autoEnabled)
    {new : List (Event (Caller τ) ι)} (hlog : world'.log = new ++ world.log)
    (hplain : ∀ event ∈ new, isPlain event = true) :
    Keeps self held world world' ∧ Invariant world' := by
  -- A plain event is no resume, closes no call and moves no gate.
  have hresumes : resumes new = 0 := by
    refine List.countP_eq_zero.mpr fun event hmem => ?_
    simp [isResume_of_isPlain (hplain event hmem)]
  have hclosings : ∀ other, closings other new = 0 := by
    intro other
    refine List.countP_eq_zero.mpr fun event hmem => ?_
    simp [isClosingOf_of_isPlain (hplain event hmem) other]
  have hgates : gates world'.log = gates world.log := by
    have hnone : gates new = [] := by
      refine List.filter_eq_nil_iff.mpr fun event hmem => ?_
      simp [isGate_of_isPlain (hplain event hmem)]
    rw [hlog]
    unfold gates at hnone ⊢
    rw [List.filter_append, hnone, List.nil_append]
  have hforce : InForce world → InForce world' := by
    intro hforce
    unfold InForce at hforce ⊢
    rw [hkeys, hforce]
  have hlatch : world'.repo.system.operatorHaltLatched = world.repo.system.operatorHaltLatched :=
    congrArg HaltKeys.operatorHaltLatched hkeys
  have hhalt : world'.repo.system.operatorBuyHalt = world.repo.system.operatorBuyHalt :=
    congrArg HaltKeys.operatorBuyHalt hkeys
  refine ⟨⟨fun _ => hkeys, fun _ => hgates, ⟨new, hlog.symm⟩, henabled, ?_, ?_, ?_⟩, ?_, ?_, ?_⟩
  · intro _ hlatched
    exact hlatch.trans hlatched
  · exact fun h => Or.inl (hforce h)
  · intro other _
    unfold closings at hclosings ⊢
    rw [hlog, List.countP_append, hclosings other, Nat.zero_add]
  · exact henabled.trans hinvariant.enabled
  · intro hlatched
    rw [hlatch] at hlatched
    rw [hhalt]
    -- The last gate event is the one it was.
    rcases hinvariant.latched hlatched with hhalted | ⟨event, rest, hlast, hresume⟩
    · exact Or.inl hhalted
    · exact Or.inr ⟨event, rest, hgates.trans hlast, hresume⟩
  · intro thread later earlier hhaltCall hsplit hreturned hnone
    rw [hlog] at hsplit
    -- The call of the halt closed before the new events.
    obtain ⟨rest, rfl, hrest⟩ := split_of_notMem hsplit (notMem_closed (hclosings thread))
    have hmem : .returned thread ∈ rest := by
      rcases List.mem_append.mp hreturned with hnew | hold
      · have := hplain _ hnew
        simp [isPlain, hhaltCall] at this
      · exact hold
    rw [resumes_append] at hnone
    exact hforce (hinvariant.standing thread rest earlier hhaltCall hrest hmem (by omega))

/-- The repository keeps the two keys and the installed AUTO. -/
structure KeysKept (repo repo' : Repository ι) : Prop where
  keys : repo'.system.haltKeys = repo.system.haltKeys
  enabled : repo'.system.autoEnabled = repo.system.autoEnabled

omit [DecidableEq τ] in
theorem KeysKept.of_system {repo repo' : Repository ι} (hsystem : repo'.system = repo.system) :
    KeysKept repo repo' := ⟨by rw [hsystem], by rw [hsystem]⟩

/-- A fact that a plain note cannot falsify. -/
def NoteStable (J : World (Caller τ) ι → Prop) : Prop :=
  ∀ world event, isPlain event = true → J world → J (world.record event)

theorem tame_setSystemValue {set : SystemState → SystemState}
    (hkeys : ∀ system, (set system).haltKeys = system.haltKeys)
    (henabled : ∀ system, (set system).autoEnabled = system.autoEnabled) :
    Proc.Tame (discipline (ι := ι) self) held (setSystemValue set) :=
  .modify fun _ hinvariant => hinvariant.plain (hkeys _) (henabled _) (rfl : _ = [] ++ _) (by simp)

theorem tame_transact {f : Repository ι → Py (Repository ι × α)}
    (hf : ∀ repo repo' value, f repo = .ok (repo', value) → KeysKept repo repo') :
    Proc.Tame (discipline self) held (transact f) := by
  refine .transaction (discipline_lawful self) fun world world' value hinvariant hok => ?_
  cases hresult : f world.repo with
  | error error =>
      rw [hresult] at hok
      cases hok
  | ok result =>
      rw [hresult] at hok
      obtain ⟨rfl, -⟩ := Prod.mk.inj (Except.ok.inj hok)
      obtain ⟨hkeys, henabled⟩ := hf world.repo result.1 result.2 hresult
      exact hinvariant.plain hkeys henabled (rfl : _ = [] ++ _) (by simp)

theorem tame_onRepo {f : Repository ι → Py (Repository ι)}
    (hf : ∀ repo repo', f repo = .ok repo' → KeysKept repo repo') :
    Proc.Tame (discipline self) held (onRepo f) := by
  refine tame_transact fun repo repo' value hok => ?_
  cases hresult : f repo with
  | error error =>
      rw [hresult] at hok
      cases hok
  | ok result =>
      rw [hresult] at hok
      obtain ⟨rfl, -⟩ := Prod.mk.inj (Except.ok.inj hok)
      exact hf repo result hresult

theorem tame_of_quiet {p : Action (Caller τ) ι α} (hquiet : Proc.Quiet p) :
    Proc.Tame (discipline self) held p := .of_quiet (discipline_lawful self) hquiet

variable [DecidableEq ι]

theorem tame_updateOrder (clientOrderId : ι) (update : OrderUpdate) :
    Proc.Tame (discipline self) held (updateOrder clientOrderId update) := by
  refine tame_onRepo fun repo repo' hok => ?_
  obtain ⟨existing, row, status, -, -, rfl⟩ := Repository.updateOrder_ok hok
  exact .of_system rfl

/-! ## Requests -/

section Requests

omit [DecidableEq τ] [DecidableEq ι]

/-- A step that reads, or takes a plain note. -/
def Notes (update : World (Caller τ) ι → World (Caller τ) ι) : Prop :=
  update = id ∨ ∃ event, isPlain event = true ∧ update = fun world => world.record event

theorem atoms_of_quiet {p : Action (Caller τ) ι α} (hquiet : Proc.Quiet p) : Proc.Atoms Notes p :=
  .of_quiet (Or.inl rfl) hquiet

theorem atoms_record {event : Event (Caller τ) ι} (hplain : isPlain event = true) :
    Proc.Atoms Notes (record event : Action (Caller τ) ι Unit) :=
  .modify (Or.inr ⟨event, hplain, rfl⟩)

theorem atoms_sessionRequest (method : HttpMethod) (path : ApiRequest ι) :
    Proc.Atoms Notes (TossClient.sessionRequest self method path) := by
  refine .bind (atoms_of_quiet (quiet_authenticate false)) fun _ => ?_
  refine .bind (atoms_record rfl) fun _ => .bind (atoms_of_quiet (.ask _)) fun outcome => ?_
  refine .bind (atoms_record rfl) fun _ => atoms_of_quiet ?_
  cases outcome <;> trivial

theorem atoms_request (method : HttpMethod) (path : ApiRequest ι) (retries : ℕ) :
    Proc.Atoms Notes (TossClient.request self method path retries) := by
  induction retries with
  | zero =>
      exact .bind (atoms_sessionRequest method path) fun _ => atoms_of_quiet (.ofExcept _)
  | succ retries ih =>
      refine .bind (atoms_sessionRequest method path) fun response => ?_
      refine .ite (fun _ => ?_) fun _ => atoms_of_quiet (.ofExcept _)
      refine .bind (atoms_of_quiet quiet_refreshToken) fun refreshed => ?_
      exact .ite (fun _ => ih) fun _ => atoms_of_quiet (.raise _)

theorem atoms_cancelOrder (orderId : BrokerOrderId) :
    Proc.Atoms Notes (TossClient.cancelOrder self orderId : Action (Caller τ) ι _) := by
  refine .bind (atoms_request _ _ 1) fun result => atoms_of_quiet ?_
  cases result with
  | missing => trivial
  | notObject => trivial
  | object order =>
      simp only
      split
      · exact .ite (fun _ => .raise _) fun _ => .pure _
      · trivial

theorem atoms_cancelOpenBuys (orders : List (OrderRow ι)) :
    Proc.Atoms Notes (OperatorSafetyService.cancelOpenBuys self orders) := by
  induction orders with
  | nil => exact atoms_of_quiet (.pure ())
  | cons order rest ih =>
      refine .bind ?_ fun _ => ih
      unfold OperatorSafetyService.cancelOpenBuy
      split
      · exact atoms_of_quiet (.pure ())
      · refine .tryCatch ?_ fun _ => atoms_of_quiet (.pure ())
        refine .bind (atoms_cancelOrder _) fun _ => ?_
        exact .bind (atoms_of_quiet (quiet_getOrder _)) fun _ => atoms_of_quiet (.pure ())

end Requests

omit [DecidableEq ι] in
/-- A program that reads and takes notes carries along what a note cannot falsify. -/
theorem carries_of_notes {J : World (Caller τ) ι → Prop} (hstable : NoteStable J)
    {p : Action (Caller τ) ι α} (hnotes : Proc.Atoms Notes p) :
    Proc.Carries (discipline self) J held p := by
  refine .of_atoms hnotes fun update hupdate world hinvariant hfact => ?_
  rcases hupdate with rfl | ⟨event, hplain, rfl⟩
  · exact ⟨Keeps.refl self held world, hinvariant, hfact⟩
  · have hlog : (world.record event).log = [event] ++ world.log := rfl
    have hstep : Keeps self held world (world.record event) ∧ Invariant (world.record event) :=
      hinvariant.plain rfl rfl hlog (by simpa using hplain)
    exact ⟨hstep.1, hstep.2, hstable world event hplain hfact⟩

omit [DecidableEq ι] in
theorem tame_placeOrder (order : OrderRequest ι) :
    Proc.Tame (discipline self) held (TossClient.placeOrder self order) := by
  refine .bind (tame_of_quiet (.ofExcept _)) fun _ => .bind ?_ fun _ => tame_of_quiet (.ofExcept _)
  exact (carries_of_notes (fun _ _ _ h => h) (atoms_request _ _ 1)).tame

/-! ## Submitting -/

open OrderManager

theorem tame_reserveRow (clientOrderId : ι) {f : Repository ι → Py (Repository ι × Bool)}
    (hf : ∀ repo result, f repo = .ok result → result.1.system = repo.system) :
    Proc.Tame (discipline self) held (reserveRow self clientOrderId f) := by
  refine .transaction (discipline_lawful self) fun world world' value hinvariant hok => ?_
  cases hresult : f world.repo with
  | error error =>
      rw [hresult] at hok
      cases hok
  | ok result =>
      rw [hresult] at hok
      obtain ⟨rfl, -⟩ := Prod.mk.inj (Except.ok.inj hok)
      have hsystem := hf world.repo result hresult
      refine hinvariant.plain ?_ ?_ (rfl : _ = [] ++ _) (by simp)
      · show result.1.system.haltKeys = world.repo.system.haltKeys
        rw [hsystem]
      · show result.1.system.autoEnabled = world.repo.system.autoEnabled
        rw [hsystem]

theorem tame_reserveSide (config : StrategyConfig) (request : OrderRequest ι) :
    Proc.Tame (discipline self) held (reserveSide config self request) := by
  unfold reserveSide
  split
  · refine .bind (tame_of_quiet quiet_buyIsHalted) fun _ => ?_
    refine .bind (tame_of_quiet (.raiseIf _ _)) fun _ => ?_
    refine .bind (tame_of_quiet (quiet_readSafeMode _)) fun _ => ?_
    refine .bind (tame_of_quiet (.raiseIf _ _)) fun _ => ?_
    refine .bind (tame_of_quiet (quiet_requireLiveAutoContract _)) fun _ => ?_
    split
    · exact tame_of_quiet (.raise _)
    · refine .bind (tame_of_quiet quiet_getBuyingPower) fun brokerAvailable => ?_
      refine .bind (tame_of_quiet (.ask _)) fun now => tame_reserveRow _ ?_
      intro repo result hok
      obtain ⟨-, rfl⟩ := Repository.reserveBuyOrderWithManagedCash_ok hok
      rfl
  · refine .bind (tame_of_quiet (.ask _)) fun now => tame_reserveRow _ ?_
    intro repo result hok
    obtain rfl := Except.ok.inj hok
    rfl

theorem tame_submitExisting (request : OrderRequest ι) (existing : OrderRow ι) :
    Proc.Tame (discipline self) held (submitExisting request existing) := by
  unfold submitExisting
  cases existing.brokerOrderId with
  | none => exact tame_of_quiet (.pure _)
  | some orderId =>
      refine .bind (.tryCatch (tame_of_quiet ?_) fun error => ?_) fun refreshed => ?_
      · refine .bind (.bind (quiet_getOrder _) fun order => ?_) fun _ => .pure _
        exact .bind (.ofExcept _) fun _ => .bind (.ofExcept _) fun _ => .pure _
      · cases error with
        | brokerReceiptValidation message =>
            exact .bind (tame_updateOrder _ _) fun _ => tame_of_quiet (.raise _)
        | _ => exact tame_of_quiet (.pure _)
      · cases refreshed with
        | none => exact tame_of_quiet (.pure _)
        | some receipt => exact .bind (tame_updateOrder _ _) fun _ => tame_of_quiet (.pure _)

omit [DecidableEq ι] in
theorem tame_brokerPlaceOrder (request : OrderRequest ι) (checks : Option BoundaryChecks) :
    Proc.Tame (discipline self) held (brokerPlaceOrder self request checks) := by
  refine .bind (.modify fun world hinvariant => ?_) fun _ => tame_placeOrder request
  refine hinvariant.plain rfl rfl (rfl : _ = [_] ++ _) ?_
  intro event hmem
  rw [List.mem_singleton.mp hmem]
  rfl

theorem tame_rejectAtBoundary (clientOrderId : ι) (message : String) :
    Proc.Tame (discipline self) held (rejectAtBoundary clientOrderId message) :=
  .bind (tame_updateOrder _ _) fun _ => tame_of_quiet (.raise _)

/-- What the locked section of a BUY does. -/
theorem tame_placeBuy (request : OrderRequest ι) :
    Proc.Tame (discipline self) held (placeBuy self request) := by
  refine .bind (tame_of_quiet quiet_buyIsHalted) fun halted => ?_
  refine .ite (fun _ => tame_rejectAtBoundary _ _) fun _ => ?_
  refine .bind (tame_of_quiet (quiet_readSafeMode _)) fun safeMode => ?_
  refine .ite (fun _ => tame_rejectAtBoundary _ _) fun _ => ?_
  refine .bind (tame_of_quiet (quiet_requireLiveAutoContract _)) fun view => ?_
  exact tame_brokerPlaceOrder request _

theorem tame_recordFailure (request : OrderRequest ι) (error : PyError) :
    Proc.Tame (discipline self) held (recordFailure request error) := by
  have hother : ∀ error, Proc.Tame (discipline self) held
      (do
        let stored ← readRepo fun repo => repo.getOrderByClientId request.clientOrderId
        if stored.map OrderRow.status = some .rejected then throw error
        else
          updateOrder request.clientOrderId { status := .exact .unknown }
          throw error : Action (Caller τ) ι (OrderReceipt ι)) := by
    intro error
    refine .bind (tame_of_quiet (quiet_readRepo _)) fun stored => ?_
    refine .ite (fun _ => tame_of_quiet (.raise _)) fun _ => ?_
    exact .bind (tame_updateOrder _ _) fun _ => tame_of_quiet (.raise _)
  cases error with
  | tossApi apiError => exact .bind (tame_updateOrder _ _) fun _ => tame_of_quiet (.raise _)
  | value message => exact hother _
  | key => exact hother _
  | stateConflict message => exact hother _
  | runtime message => exact hother _
  | integrity => exact hother _
  | brokerReceiptValidation message => exact hother _
  | other name => exact hother _

/-- A submission leaves the two keys alone. -/
theorem safe_submit (config : StrategyConfig) (settings : RuntimeSettings)
    (request : OrderRequest ι) :
    Proc.Safe (discipline self) (submit config settings self request) := by
  have hlawful := discipline_lawful (ι := ι) self
  refine .bind (.of_quiet hlawful (.ofExcept _)) fun normalized => ?_
  refine .bind (.of_quiet hlawful (quiet_readRepo _)) fun found => ?_
  cases found with
  | some existing => exact .of_tame (tame_submitExisting normalized existing)
  | none =>
      refine .bind (.of_tame ?_) fun _ => .bind (.tryCatch ?_ fun error => ?_) fun receipt => ?_
      · refine .bind (tame_of_quiet ?_) fun _ => .bind (tame_reserveSide config normalized) fun _ => ?_
        · exact .bind (.ofExcept _) fun _ => .bind (quiet_getSystemValue _) fun _ => .raiseIf _ _
        · exact tame_of_quiet (.raiseIf _ _)
      · refine .bind ?_ fun receipt => .bind (.of_quiet hlawful (.ofExcept _)) fun _ =>
          .of_quiet hlawful (.pure _)
        unfold placeSide
        split
        · exact .withLock (tame_placeBuy normalized)
        · exact .of_tame (tame_brokerPlaceOrder normalized none)
      · exact .of_tame (tame_recordFailure normalized error)
      · exact .bind (.of_tame (tame_updateOrder _ _)) fun _ => .of_quiet hlawful (.pure _)

end Latch

end JdHoldings

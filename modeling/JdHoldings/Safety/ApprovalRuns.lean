import JdHoldings.Safety.ExpiredApprovals

/-!
# The life of an approval

Two threads create, consume, cancel, sweep and halt, each in a transaction of its own.
Whatever the order, an approval leaves ACTIVE once and for good (`Step.moves`), and so it
is consumed at most once, in time, at its stage and with its token.

`halt()` cancels every active approval in one transaction and returns later, when it has
cancelled the open orders.  No approval created before that transaction is consumed after
it.  One created between the transaction and the return is not cancelled
(`approval_survives_halt`), and an execution that consumed its approval before the
transaction is still on its way to the order boundary: there the flag `halt()` has set
stops both, not their approvals.

That an execution reaches the boundary with a consumed approval in flight is a guard of
`Step.boundary` here.  `Trading.ApprovedOrders` shows that the program of `execute` keeps it.
-/

namespace JdHoldings

/-! ## Runs -/

/-- What is recorded of a run. -/
inductive ApprovalEvent where
  | created (approvalId : ℕ)
  | consumed (approvalId : ℕ) (token : String) (stage : ApprovalStage) (now : Utc)
  /-- The transaction of `halt()` commits. -/
  | haltCancels
  /-- `halt()` returns. -/
  | haltReturns
  /-- An execution reaches the order boundary. -/
  | boundary (approvalId : ℕ)

def ApprovalEvent.consumedId : ApprovalEvent → Option ℕ
  | .consumed approvalId _ _ _ => some approvalId
  | _ => none

def ApprovalEvent.boundaryId : ApprovalEvent → Option ℕ
  | .boundary approvalId => some approvalId
  | _ => none

/-- The store, the events so far, newest first, whether `halt()` holds its lock, and the
approvals `execute` has consumed on its way to the order boundary. -/
structure ApprovalWorld (δ : Type) where
  store : ApprovalStore δ
  log : List ApprovalEvent := []
  halting : Bool := false
  inFlight : List ℕ := []

namespace ApprovalWorld

variable {δ : Type} [DecidableEq δ]

/-- One transaction of some thread, or one event. -/
inductive Step (hash : String → δ) (world : ApprovalWorld δ) : ApprovalWorld δ → Prop
  | create (signalId : SignalId) (stage : ApprovalStage) (payload : Option ApprovalPayload)
      (token : String) (now expiresAt : Utc) (store' : ApprovalStore δ) (approvalId : ℕ)
      (hok : world.store.createApproval hash signalId stage payload token now expiresAt =
        (store', .ok approvalId)) :
      Step hash world { world with
        store := store'
        log := .created approvalId :: world.log }
  | consume (approvalId : ℕ) (token : String) (stage : ApprovalStage) (now : Utc)
      (result : SignalId × Option ApprovalPayload)
      (hok : (ApprovalStore.consumeApproval hash approvalId token stage now world.store).2 =
        .ok result) :
      Step hash world { world with
        store := (ApprovalStore.consumeApproval hash approvalId token stage now world.store).1
        log := .consumed approvalId token stage now :: world.log
        inFlight := if stage = .execution then approvalId :: world.inFlight else world.inFlight }
  | refuse (approvalId : ℕ) (token : String) (stage : ApprovalStage) (now : Utc)
      (refusal : ApprovalRefusal)
      (hrefused : (ApprovalStore.consumeApproval hash approvalId token stage now world.store).2 =
        .error refusal) :
      Step hash world { world with
        store := (ApprovalStore.consumeApproval hash approvalId token stage now world.store).1 }
  | cancel (approvalId : ℕ) :
      Step hash world { world with store := (world.store.cancelApproval approvalId).1 }
  | reactivate (signalId : SignalId) :
      Step hash world { world with store := world.store.reactivateSignal signalId }
  | sweep (current : Utc) :
      Step hash world { world with store := world.store.sweep current }
  | haltCancels (hfree : world.halting = false) :
      Step hash world { world with
        store := world.store.haltTransaction
        log := .haltCancels :: world.log
        halting := true }
  | haltReturns (hhalting : world.halting = true) :
      Step hash world { world with
        log := .haltReturns :: world.log
        halting := false }
  | boundary (approvalId : ℕ) (hflight : approvalId ∈ world.inFlight) :
      Step hash world { world with
        log := .boundary approvalId :: world.log
        inFlight := world.inFlight.erase approvalId }
  /-- Signals and cash-release intents written by anything else. -/
  | elsewhere (store' : ApprovalStore δ) (hsame : store'.approvals = world.store.approvals) :
      Step hash world { world with store := store' }

inductive Reachable (hash : String → δ) : ApprovalWorld δ → Prop
  | start (store : ApprovalStore δ) (hempty : store.approvals = []) :
      Reachable hash { store := store }
  | step {world world' : ApprovalWorld δ} (hrun : Reachable hash world)
      (hstep : Step hash world world') : Reachable hash world'

theorem Reachable.steps {hash : String → δ} {world world' : ApprovalWorld δ}
    (hrun : Reachable hash world) (hsteps : Relation.ReflTransGen (Step hash) world world') :
    Reachable hash world' := by
  induction hsteps with
  | refl => exact hrun
  | tail _ hstep ih => exact .step ih hstep

end ApprovalWorld

/-! ## Rows -/

/-- A row and a later version of it. -/
def Approval.Follows {δ : Type} (row row' : Approval δ) : Prop :=
  row' = row ∨
    row.status = .active ∧ row'.status ≠ .active ∧ row'.signalId = row.signalId ∧
      row'.tokenHash = row.tokenHash ∧ row'.stage = row.stage ∧ row'.payload = row.payload ∧
      row'.expiresAt = row.expiresAt ∧ row'.createdAt = row.createdAt

namespace ApprovalStore

variable {δ : Type}

/-- Every approval stays, and leaves ACTIVE for good if it does. -/
def Moves (store store' : ApprovalStore δ) : Prop :=
  ∀ approvalId row, store.approval? approvalId = some row →
    ∃ row', store'.approval? approvalId = some row' ∧ row.Follows row'

theorem Moves.of_same {store store' : ApprovalStore δ}
    (hsame : store'.approvals = store.approvals) : store.Moves store' := by
  intro approvalId row hrow
  refine ⟨row, ?_, .inl rfl⟩
  cases approvalId with
  | zero => exact hrow
  | succ position =>
      rw [approval?] at hrow ⊢
      rw [hsame, hrow]

theorem approval?_updateApproval (store : ApprovalStore δ) (approvalId other : ℕ)
    (set : Approval δ → Approval δ) :
    (store.updateApproval approvalId set).approval? other =
      if approvalId = other then (store.approval? other).map set else store.approval? other := by
  cases approvalId with
  | zero =>
      cases other with
      | zero => rfl
      | succ position => simp [updateApproval]
  | succ updated =>
      cases other with
      | zero => simp [approval?]
      | succ position =>
          simp only [updateApproval, approval?, List.getElem?_modify, Nat.succ.injEq]
          split <;> simp [*]

theorem approval?_retire (store : ApprovalStore δ) (status : ApprovalStatus)
    (which : Approval δ → Bool) (approvalId : ℕ) :
    (store.retire status which).approval? approvalId =
      (store.approval? approvalId).map fun row =>
        if which row && decide (row.status = .active) then { row with status := status }
        else row := by
  cases approvalId with
  | zero => rfl
  | succ position => simp [approval?, retire]

/-- A row that retires leaves ACTIVE. -/
theorem moves_retire (store : ApprovalStore δ) {status : ApprovalStatus}
    (hstatus : status ≠ .active) (which : Approval δ → Bool) :
    store.Moves (store.retire status which) := by
  intro approvalId row hrow
  rw [approval?_retire, hrow]
  by_cases hchosen : (which row && decide (row.status = .active)) = true
  · refine ⟨{ row with status := status }, by simp only [Option.map_some, if_pos hchosen], ?_⟩
    rw [Bool.and_eq_true, decide_eq_true_eq] at hchosen
    exact .inr ⟨hchosen.2, hstatus, rfl, rfl, rfl, rfl, rfl, rfl⟩
  · exact ⟨row, by simp only [Option.map_some, if_neg hchosen], .inl rfl⟩

theorem moves_cancelApproval (store : ApprovalStore δ) (approvalId : ℕ) :
    store.Moves (store.cancelApproval approvalId).1 := by
  unfold cancelApproval
  cases store.approval? approvalId with
  | none => exact .of_same rfl
  | some row => exact moves_retire store (by decide) _

theorem moves_reactivateSignal (store : ApprovalStore δ) (signalId : SignalId) :
    store.Moves (store.reactivateSignal signalId) := by
  unfold reactivateSignal
  split
  · exact .of_same rfl
  · split
    · exact moves_retire store (by decide) _
    · exact .of_same rfl

theorem moves_createApproval {store store' : ApprovalStore δ} {hash : String → δ}
    {signalId : SignalId} {stage : ApprovalStage} {payload : Option ApprovalPayload}
    {token : String} {now expiresAt : Utc} {approvalId : ℕ}
    (hok : store.createApproval hash signalId stage payload token now expiresAt =
      (store', .ok approvalId)) :
    store.Moves store' ∧ approvalId = store.approvals.length + 1 ∧
      store'.approvals.length = store.approvals.length + 1 := by
  unfold createApproval at hok
  split at hok
  · cases hok
  · cases hok
    refine ⟨fun other row hrow => ⟨row, ?_, .inl rfl⟩, rfl, by simp⟩
    cases other with
    | zero => exact hrow
    | succ position =>
        rw [approval?] at hrow ⊢
        obtain ⟨hlt, -⟩ := List.getElem?_eq_some_iff.mp hrow
        rw [← hrow]
        exact List.getElem?_append_left hlt

/-- `halt()` leaves no approval active. -/
theorem not_active_haltTransaction {store : ApprovalStore δ} {approvalId : ℕ} {row : Approval δ}
    (hrow : store.haltTransaction.approval? approvalId = some row) : row.status ≠ .active := by
  have hretired : (store.retire .canceled fun _ => true).approval? approvalId = some row := hrow
  rw [approval?_retire] at hretired
  obtain ⟨before, -, rfl⟩ := Option.map_eq_some_iff.mp hretired
  by_cases hactive : before.status = .active
  · simp [hactive]
  · simp [hactive]

section Consume

variable [DecidableEq δ] {hash : String → δ} {approvalId : ℕ} {token : String}
  {stage : ApprovalStage} {now : Utc} {store : ApprovalStore δ}

theorem moves_consumeApproval (hash : String → δ) (approvalId : ℕ) (token : String)
    (stage : ApprovalStage) (now : Utc) (store : ApprovalStore δ) :
    store.Moves (consumeApproval hash approvalId token stage now store).1 := by
  cases hresult : (consumeApproval hash approvalId token stage now store).2 with
  | error refusal => rw [consumeApproval_of_error hresult]; exact .of_same rfl
  | ok result =>
      obtain ⟨found, hfound, hactive, -, -, -, hafter⟩ := consumeApproval_of_ok hresult
      rw [hafter]
      intro other row hrow
      rw [approval?_updateApproval, hrow]
      by_cases hid : approvalId = other
      · rw [← hid, hfound] at hrow
        cases hrow
        exact ⟨{ found with status := .used, usedAt := some now },
          by rw [if_pos hid, Option.map_some],
          .inr ⟨hactive, by simp, rfl, rfl, rfl, rfl, rfl, rfl⟩⟩
      · exact ⟨row, by rw [if_neg hid], .inl rfl⟩

end Consume

end ApprovalStore

namespace ApprovalWorld

variable {δ : Type} {hash : String → δ} {world world' : ApprovalWorld δ}

/-- Whatever happens, an approval leaves ACTIVE once and for good. -/
theorem Step.moves [DecidableEq δ] (hstep : Step hash world world') : world.store.Moves world'.store := by
  cases hstep with
  | create signalId stage payload token now expiresAt store' approvalId hok =>
      exact (ApprovalStore.moves_createApproval hok).1
  | consume approvalId token stage now result hok =>
      exact ApprovalStore.moves_consumeApproval hash approvalId token stage now world.store
  | refuse approvalId token stage now refusal hrefused =>
      exact ApprovalStore.moves_consumeApproval hash approvalId token stage now world.store
  | cancel approvalId => exact world.store.moves_cancelApproval approvalId
  | reactivate signalId => exact world.store.moves_reactivateSignal signalId
  | sweep current => exact world.store.moves_retire (by decide) _
  | haltCancels hfree => exact world.store.moves_retire (by decide) _
  | haltReturns hhalting => exact .of_same rfl
  | boundary approvalId hflight => exact .of_same rfl
  | elsewhere store' hsame => exact .of_same hsame

/-! ## What holds of the events -/

/-- A consumption: in time, at the stage of the approval, with its token. -/
def Valid (hash : String → δ) (store : ApprovalStore δ) (approvalId : ℕ) (token : String)
    (stage : ApprovalStage) (now : Utc) : Prop :=
  ∃ row, store.approval? approvalId = some row ∧ row.status ≠ .active ∧ row.stage = stage ∧
    ¬row.expiresAt < now ∧ row.tokenHash = hash token

/-- What the events of a run say about its approvals. -/
structure Lifecycle (hash : String → δ) (world : ApprovalWorld δ) : Prop where
  consumedOnce : (world.log.filterMap ApprovalEvent.consumedId).Nodup
  valid : ∀ approvalId token stage now, .consumed approvalId token stage now ∈ world.log →
    Valid hash world.store approvalId token stage now
  /-- No approval created before a halt cancels is consumed after it. -/
  haltStops : ∀ later earlier, world.log = later ++ .haltCancels :: earlier →
    ∀ approvalId, .created approvalId ∈ earlier →
      ∀ token stage now, .consumed approvalId token stage now ∉ later
  /-- An execution reaches the boundary after it has consumed its approval. -/
  boundary : ∀ later earlier approvalId, world.log = later ++ .boundary approvalId :: earlier →
    ∃ token now, .consumed approvalId token .execution now ∈ earlier

/-- The invariant: besides, what a halt has cancelled is not active, and what is in flight
has been consumed. -/
structure Invariant (hash : String → δ) (world : ApprovalWorld δ) : Prop
    extends Lifecycle hash world where
  created : ∀ approvalId, .created approvalId ∈ world.log →
    ∃ row, world.store.approval? approvalId = some row
  canceled : ∀ later earlier, world.log = later ++ .haltCancels :: earlier →
    ∀ approvalId, .created approvalId ∈ earlier →
      ∀ row, world.store.approval? approvalId = some row → row.status ≠ .active
  inFlight : ∀ approvalId ∈ world.inFlight,
    ∃ token now, .consumed approvalId token .execution now ∈ world.log

theorem Valid.moves {store store' : ApprovalStore δ} {approvalId : ℕ} {token : String}
    {stage : ApprovalStage} {now : Utc} (hvalid : Valid hash store approvalId token stage now)
    (hmoves : store.Moves store') : Valid hash store' approvalId token stage now := by
  obtain ⟨row, hrow, hstatus, hstage, hfresh, htoken⟩ := hvalid
  obtain ⟨row', hrow', rfl | ⟨hactive, -⟩⟩ := hmoves approvalId row hrow
  · exact ⟨row', hrow', hstatus, hstage, hfresh, htoken⟩
  · exact absurd hactive hstatus

/-- What a halt has cancelled stays cancelled. -/
theorem Invariant.canceled_moves (hinv : Invariant hash world) {store' : ApprovalStore δ}
    (hmoves : world.store.Moves store') {later earlier : List ApprovalEvent}
    (hlog : world.log = later ++ .haltCancels :: earlier) {approvalId : ℕ}
    (hcreated : .created approvalId ∈ earlier) {row : Approval δ}
    (hrow : store'.approval? approvalId = some row) : row.status ≠ .active := by
  obtain ⟨before, hbefore⟩ := hinv.created approvalId (by rw [hlog]; simp [hcreated])
  have hstatus := hinv.canceled later earlier hlog approvalId hcreated before hbefore
  obtain ⟨after, hafter, hfollows⟩ := hmoves approvalId before hbefore
  rw [hrow] at hafter
  cases hafter
  rcases hfollows with rfl | ⟨hactive, -⟩
  · exact hstatus
  · exact absurd hactive hstatus

theorem Invariant.created_moves (hinv : Invariant hash world) {store' : ApprovalStore δ}
    (hmoves : world.store.Moves store') {approvalId : ℕ}
    (hcreated : .created approvalId ∈ world.log) :
    ∃ row, store'.approval? approvalId = some row := by
  obtain ⟨before, hbefore⟩ := hinv.created approvalId hcreated
  obtain ⟨after, hafter, -⟩ := hmoves approvalId before hbefore
  exact ⟨after, hafter⟩

/-- A transaction without an event. -/
theorem Invariant.silent (hinv : Invariant hash world) {store' : ApprovalStore δ}
    (hmoves : world.store.Moves store') : Invariant hash { world with store := store' } where
  consumedOnce := hinv.consumedOnce
  valid approvalId token stage now hmem := (hinv.valid approvalId token stage now hmem).moves hmoves
  haltStops := hinv.haltStops
  boundary := hinv.boundary
  created _ hmem := hinv.created_moves hmoves hmem
  canceled _ _ hlog _ hcreated _ hrow := hinv.canceled_moves hmoves hlog hcreated hrow
  inFlight := hinv.inFlight

/-- A transaction with an event that consumes nothing: what is left to show is about the event
itself. -/
theorem Invariant.event (hinv : Invariant hash world) {store' : ApprovalStore δ}
    (hmoves : world.store.Moves store') {event : ApprovalEvent} {halting : Bool}
    {inFlight : List ℕ} (hflight : inFlight ⊆ world.inFlight) (hnotConsumed : event.consumedId = none)
    (hboundary : ∀ approvalId, event = .boundary approvalId → approvalId ∈ world.inFlight)
    (hcreated : ∀ approvalId, event = .created approvalId →
      ∃ row, store'.approval? approvalId = some row)
    (hhalt : event = .haltCancels → ∀ approvalId row, store'.approval? approvalId = some row →
      row.status ≠ .active) :
    Invariant hash { world with
      store := store', log := event :: world.log, halting := halting, inFlight := inFlight } where
  consumedOnce := by
    rw [List.filterMap_cons, hnotConsumed]
    exact hinv.consumedOnce
  valid approvalId token stage now hmem := by
    rcases List.mem_cons.mp hmem with rfl | hmem
    · cases hnotConsumed
    · exact (hinv.valid approvalId token stage now hmem).moves hmoves
  haltStops later earlier hlog approvalId hmem token stage now hconsumed := by
    rcases List.cons_eq_append_iff.mp hlog with ⟨rfl, -⟩ | ⟨later', rfl, hlog'⟩
    · cases hconsumed
    · rcases List.mem_cons.mp hconsumed with rfl | hconsumed
      · cases hnotConsumed
      · exact hinv.haltStops later' earlier hlog' approvalId hmem token stage now hconsumed
  boundary later earlier approvalId hlog := by
    rcases List.cons_eq_append_iff.mp hlog with ⟨-, hevent⟩ | ⟨later', -, hlog⟩
    · obtain ⟨hevent', rfl⟩ := List.cons.inj hevent
      exact hinv.inFlight approvalId (hboundary approvalId hevent'.symm)
    · exact hinv.boundary later' earlier approvalId hlog
  created approvalId hmem := by
    rcases List.mem_cons.mp hmem with hevent | hmem
    · exact hcreated approvalId hevent.symm
    · exact hinv.created_moves hmoves hmem
  canceled later earlier hlog approvalId hmem row hrow := by
    rcases List.cons_eq_append_iff.mp hlog with ⟨-, hevent⟩ | ⟨later', -, hlog⟩
    · exact hhalt (List.cons.inj hevent).1.symm approvalId row hrow
    · exact hinv.canceled_moves hmoves hlog hmem hrow
  inFlight approvalId hmem := by
    obtain ⟨token, now, hconsumed⟩ := hinv.inFlight approvalId (hflight hmem)
    exact ⟨token, now, List.mem_cons_of_mem _ hconsumed⟩

/-- A successful consumption. -/
theorem Invariant.consume [DecidableEq δ] (hinv : Invariant hash world) {approvalId : ℕ}
    {token : String} {stage : ApprovalStage} {now : Utc}
    {result : SignalId × Option ApprovalPayload}
    (hok : (ApprovalStore.consumeApproval hash approvalId token stage now world.store).2 =
      .ok result) :
    Invariant hash { world with
      store := (ApprovalStore.consumeApproval hash approvalId token stage now world.store).1
      log := .consumed approvalId token stage now :: world.log
      inFlight := if stage = .execution then approvalId :: world.inFlight
        else world.inFlight } := by
  have hmoves :=
    ApprovalStore.moves_consumeApproval hash approvalId token stage now world.store
  obtain ⟨row, hrow, hactive, hstage, hfresh, htoken, hafter⟩ :=
    ApprovalStore.consumeApproval_of_ok hok
  constructor
  case toLifecycle =>
    constructor
    case consumedOnce =>
      rw [List.filterMap_cons]
      refine List.nodup_cons.mpr ⟨fun hmem => ?_, hinv.consumedOnce⟩
      obtain ⟨event, hevent, hid⟩ := List.mem_filterMap.mp hmem
      cases event with
      | consumed other token' stage' now' =>
          cases hid
          -- The approval was active a moment ago, so no earlier event consumed it.
          obtain ⟨found, hfound, hstatus, -⟩ := hinv.valid _ _ _ _ hevent
          rw [hrow] at hfound
          cases hfound
          exact hstatus hactive
      | _ => cases hid
    case valid =>
      intro other token' stage' now' hmem
      rcases List.mem_cons.mp hmem with hevent | hmem
      · cases hevent
        refine ⟨{ row with status := .used, usedAt := some now }, ?_, by simp, hstage, hfresh,
          htoken⟩
        rw [hafter, ApprovalStore.approval?_updateApproval, if_pos rfl, hrow, Option.map_some]
      · exact (hinv.valid _ _ _ _ hmem).moves hmoves
    case haltStops =>
      intro later earlier hlog other hcreated token' stage' now' hconsumed
      rcases List.cons_eq_append_iff.mp hlog with ⟨rfl, -⟩ | ⟨later', rfl, hlog'⟩
      · cases hconsumed
      · rcases List.mem_cons.mp hconsumed with hevent | hconsumed
        · -- an approval cancelled by the halt is not active
          cases hevent
          exact hinv.canceled later' earlier hlog' approvalId hcreated row hrow hactive
        · exact hinv.haltStops later' earlier hlog' other hcreated _ _ _ hconsumed
    case boundary =>
      intro later earlier other hlog
      rcases List.cons_eq_append_iff.mp hlog with ⟨-, hevent⟩ | ⟨later', -, hlog'⟩
      · cases (List.cons.inj hevent).1
      · exact hinv.boundary later' earlier other hlog'
  case created =>
    intro other hmem
    rcases List.mem_cons.mp hmem with hevent | hmem
    · cases hevent
    · exact hinv.created_moves hmoves hmem
  case canceled =>
    intro later earlier hlog other hcreated found hfound
    rcases List.cons_eq_append_iff.mp hlog with ⟨-, hevent⟩ | ⟨later', -, hlog'⟩
    · cases (List.cons.inj hevent).1
    · exact hinv.canceled_moves hmoves hlog' hcreated hfound
  case inFlight =>
    intro other hmem
    -- Only the execution stage puts an approval into flight.
    by_cases hexecution : stage = .execution
    · simp only [hexecution, if_true] at hmem
      rcases List.mem_cons.mp hmem with rfl | hmem
      · exact ⟨token, now, by rw [hexecution]; exact List.mem_cons_self⟩
      · obtain ⟨token', now', hconsumed⟩ := hinv.inFlight other hmem
        exact ⟨token', now', List.mem_cons_of_mem _ hconsumed⟩
    · simp only [hexecution, if_false] at hmem
      obtain ⟨token', now', hconsumed⟩ := hinv.inFlight other hmem
      exact ⟨token', now', List.mem_cons_of_mem _ hconsumed⟩

theorem Invariant.step [DecidableEq δ] (hinv : Invariant hash world)
    (hstep : Step hash world world') : Invariant hash world' := by
  have hmoves := hstep.moves
  cases hstep with
  | create signalId stage payload token now expiresAt store' approvalId hok =>
      obtain ⟨-, hid, hlength⟩ := ApprovalStore.moves_createApproval hok
      refine hinv.event hmoves (List.Subset.refl _) rfl (fun _ => by simp) (fun other hevent => ?_)
        (by simp)
      cases hevent
      rw [hid, ApprovalStore.approval?]
      exact ⟨_, List.getElem?_eq_getElem (show world.store.approvals.length < store'.approvals.length by omega)⟩
  | consume approvalId token stage now result hok => exact hinv.consume hok
  | refuse approvalId token stage now refusal hrefused => exact hinv.silent hmoves
  | cancel approvalId => exact hinv.silent hmoves
  | reactivate signalId => exact hinv.silent hmoves
  | sweep current => exact hinv.silent hmoves
  | haltCancels hfree =>
      exact hinv.event hmoves (List.Subset.refl _) rfl (fun _ => by simp) (fun _ => by simp)
        fun _ _ _ => ApprovalStore.not_active_haltTransaction
  | haltReturns hhalting =>
      exact hinv.event hmoves (List.Subset.refl _) rfl (fun _ => by simp) (fun _ => by simp)
        (by simp)
  | boundary approvalId hflight =>
      refine hinv.event hmoves (List.erase_subset) rfl (fun other hevent => ?_) (fun _ => by simp)
        (by simp)
      cases hevent
      exact hflight
  | elsewhere store' hsame => exact hinv.silent hmoves

theorem Reachable.invariant [DecidableEq δ] (hrun : Reachable hash world) :
    Invariant hash world := by
  induction hrun with
  | start store hempty =>
      exact {
        consumedOnce := List.nodup_nil
        valid := by simp
        haltStops := by simp
        boundary := by simp
        created := by simp
        canceled := by simp
        inFlight := by simp }
  | step _ hstep ih => exact ih.step hstep

end ApprovalWorld

open ApprovalWorld

/-- In every interleaving, an approval leaves ACTIVE once and for good, is consumed at most
once, in time, at its stage and with its token, not after a halt that found it cancelled it,
and before its execution reaches the order boundary. -/
theorem approvals_used_once {δ : Type} [DecidableEq δ] {hash : String → δ}
    {world : ApprovalWorld δ} (hrun : Reachable hash world) :
    (∀ world', Step hash world world' → world.store.Moves world'.store) ∧
      Lifecycle hash world :=
  ⟨fun _ hstep => hstep.moves, hrun.invariant.toLifecycle⟩

namespace Overtaken

open Lapsed

/-- One active signal and no approvals. -/
def start : ApprovalWorld ℕ where
  store := { signals := fun signalId => if signalId = 7 then some .active else none }

/-- After the transaction of `halt()`. -/
def canceled : ApprovalWorld ℕ where
  store := start.store.haltTransaction
  log := [.haltCancels]
  halting := true

/-- A review is approved meanwhile. -/
def created : ApprovalWorld ℕ where
  store := (canceled.store.createApproval String.length 7 .review none "t" expiry late).1
  log := [.created 1, .haltCancels]
  halting := true

def returned : ApprovalWorld ℕ where
  store := created.store
  log := [.haltReturns, .created 1, .haltCancels]

def consumed : ApprovalWorld ℕ where
  store := (ApprovalStore.consumeApproval String.length 1 "t" .review expiry returned.store).1
  log := [.consumed 1 "t" .review expiry, .haltReturns, .created 1, .haltCancels]

theorem consumed_reachable : Reachable String.length consumed :=
  have hcanceled : Reachable String.length canceled := .step (.start start.store rfl) (.haltCancels rfl)
  have hcreated : Reachable String.length created :=
    .step hcanceled (.create 7 .review none "t" expiry late _ 1 rfl)
  have hreturned : Reachable String.length returned := .step hcreated (.haltReturns rfl)
  .step hreturned (.consume 1 "t" .review expiry (7, none) (by decide +kernel))

/-- An execution is approved. -/
def approved : ApprovalWorld ℕ where
  store := (start.store.createApproval String.length 7 .execution none "t" expiry late).1
  log := [.created 1]

/-- `execute` consumes the approval, and asks for a quote. -/
def executing : ApprovalWorld ℕ where
  store := (ApprovalStore.consumeApproval String.length 1 "t" .execution expiry approved.store).1
  log := [.consumed 1 "t" .execution expiry, .created 1]
  inFlight := [1]

/-- The operator halts while it waits. -/
def halted : ApprovalWorld ℕ where
  store := executing.store.haltTransaction
  log := [.haltReturns, .haltCancels, .consumed 1 "t" .execution expiry, .created 1]
  inFlight := [1]

def reached : ApprovalWorld ℕ where
  store := halted.store
  log := .boundary 1 :: halted.log

theorem reached_reachable : Reachable String.length reached :=
  have happroved : Reachable String.length approved :=
    .step (.start start.store rfl) (.create 7 .execution none "t" expiry late _ 1 rfl)
  have hexecuting : Reachable String.length executing :=
    .step happroved (.consume 1 "t" .execution expiry (7, none) (by decide +kernel))
  have hhalted : Reachable String.length halted := .step (.step hexecuting (.haltCancels rfl))
    (.haltReturns rfl)
  .step hhalted (.boundary 1 List.mem_cons_self)

end Overtaken

open Overtaken in
/-- An approval created before `halt()` returns can be consumed afterwards, and an execution
approved before a halt reaches the order boundary after it. -/
theorem approval_survives_halt :
    (¬∀ world, Reachable String.length world →
      ∀ later earlier, world.log = later ++ .haltReturns :: earlier →
        ∀ approvalId, .created approvalId ∈ earlier →
          ∀ token stage now, .consumed approvalId token stage now ∉ later) ∧
    ¬∀ world, Reachable String.length world →
      ∀ later earlier, world.log = later ++ .haltReturns :: earlier →
        ∀ approvalId, .created approvalId ∈ earlier → .boundary approvalId ∉ later := by
  constructor
  · intro hstops
    exact hstops consumed consumed_reachable [_] [.created 1, .haltCancels] rfl 1 (by simp) _ _ _
      List.mem_cons_self
  · intro hstops
    exact hstops reached reached_reachable [.boundary 1] _ rfl 1 (by simp) List.mem_cons_self

open Overtaken in
theorem approvals_used_once_overtaken :
    (∀ world', Step String.length consumed world' → consumed.store.Moves world'.store) ∧
      Lifecycle String.length consumed :=
  approvals_used_once consumed_reachable

end JdHoldings

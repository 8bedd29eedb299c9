import JdHoldings.Application.TradingService
import JdHoldings.Library.Pool
import JdHoldings.Safety.ApprovalRuns

/-!
# Approvals in hand

The consumption of an execution approval puts it into the hands of its thread (`InHand`).
Nobody else can consume it again, so it stays there until the thread hands its order over.

Every other statement of the trading service is a `Frame`: approvals only leave ACTIVE,
rows of signals keep what identifies them, and nothing is taken or handed over.
-/

namespace JdHoldings

variable {τ δ ι α : Type}

/-- What identifies a row of `signals`: no statement changes it. -/
def CoreSignal.key (signal : CoreSignal) : SignalId × AllocationSymbol × SignalAction :=
  (signal.signalId, signal.symbol, signal.action)

/-- A row that has left ACTIVE does not move again. -/
theorem ApprovalStore.Moves.trans {store store' store'' : ApprovalStore δ}
    (hfirst : store.Moves store') (hsecond : store'.Moves store'') : store.Moves store'' := by
  intro approvalId row hrow
  obtain ⟨row', hrow', hfollows⟩ := hfirst approvalId row hrow
  obtain ⟨row'', hrow'', hfollows'⟩ := hsecond approvalId row' hrow'
  refine ⟨row'', hrow'', ?_⟩
  rcases hfollows with rfl | ⟨hactive, hleft, hrest⟩
  · exact hfollows'
  · rcases hfollows' with rfl | ⟨hagain, -⟩
    · exact .inr ⟨hactive, hleft, hrest⟩
    · exact absurd hagain hleft

/-- A consumption returns the signal and the payload of its row. -/
theorem ApprovalStore.consumeApproval_result [DecidableEq δ] {hash : String → δ} {approvalId : ℕ}
    {token : String} {stage : ApprovalStage} {now : Utc} {store : ApprovalStore δ}
    {row : Approval δ} {result : SignalId × Option ApprovalPayload}
    (hrow : store.approval? approvalId = some row)
    (hok : (consumeApproval hash approvalId token stage now store).2 = .ok result) :
    result = (row.signalId, row.payload) := by
  rw [consumeApproval, inTransaction_snd] at hok
  simp only [consumeBody, hrow] at hok
  split_ifs at hok
  exact (Except.ok.inj hok).symm

namespace TradingBooks

/-- The rows of `signals` stand under their ids. -/
def Keyed (books : TradingBooks τ δ ι) : Prop :=
  ∀ signalId row, books.signals signalId = some row → row.signalId = signalId

/-- There is a row with these columns. -/
def HasKey (books : TradingBooks τ δ ι) (signalId : SignalId)
    (key : SignalId × AllocationSymbol × SignalAction) : Prop :=
  ∃ row, books.signals signalId = some row ∧ row.key = key

/-- An execution of the signal was approved with this payload, and the approval has been
consumed in time. -/
def Consumed (books : TradingBooks τ δ ι) (approvalId : ℕ) (signalId : SignalId)
    (payload : Option ApprovalPayload) : Prop :=
  ∃ row usedAt, books.store.approval? approvalId = some row ∧ row.status = .used ∧
    row.stage = .execution ∧ row.signalId = signalId ∧ row.payload = payload ∧
    row.usedAt = some usedAt ∧ usedAt ≤ row.expiresAt

end TradingBooks

/-- The order is the approved one: with its price and quantity, at the ceiling and in the session
it was approved for, within the row its quote was made for. -/
structure Submission.Matches (config : StrategyConfig) (submission : Submission ι)
    (approved : ApprovalPayload) : Prop where
  symbol : submission.request.symbol = .allocation submission.signal.symbol
  purpose : submission.request.purpose = .coreRebalanceBuy
  orderType : submission.request.orderType = .limit
  quantity : submission.request.quantity = approved.quantity
  price : submission.request.price = some approved.limitPrice
  ceiling : submission.quote.executionCeiling = approved.executionCeiling
  session : submission.quote.session.text = approved.session
  price_le : approved.limitPrice ≤ submission.signal.maxChasePrice
  cost_le : approved.quantity * approved.limitPrice * (1 + config.buyFee) ≤
    submission.signal.plannedBudget

/-- The order was approved. -/
def Submission.Approved (config : StrategyConfig) (books : TradingBooks τ δ ι)
    (submission : Submission ι) : Prop :=
  ∃ approved, books.Consumed submission.approvalId submission.signal.signalId (some approved) ∧
    submission.Matches config approved

namespace TradingBooks

variable {books books' books'' : TradingBooks τ δ ι}

theorem setSignal_self (books : TradingBooks τ δ ι) (signalId : SignalId) (row : CoreSignal) :
    (books.setSignal signalId row).signals signalId = some row := by
  simp [setSignal]

theorem setSignal_of_ne {signalId other : SignalId} (hother : other ≠ signalId)
    (row : CoreSignal) : (books.setSignal signalId row).signals other = books.signals other := by
  simp [setSignal, hother]

/-- A consumed approval stays consumed. -/
theorem Consumed.moves {approvalId : ℕ} {signalId : SignalId} {payload : Option ApprovalPayload}
    (hconsumed : books.Consumed approvalId signalId payload)
    (hmoves : books.store.Moves books'.store) : books'.Consumed approvalId signalId payload := by
  obtain ⟨row, usedAt, hrow, hstatus, hrest⟩ := hconsumed
  obtain ⟨row', hrow', rfl | ⟨hactive, -⟩⟩ := hmoves approvalId row hrow
  · exact ⟨row', usedAt, hrow', hstatus, hrest⟩
  · rw [hstatus] at hactive
    cases hactive

theorem Consumed.not_active {approvalId : ℕ} {signalId : SignalId}
    {payload : Option ApprovalPayload} {row : Approval δ}
    (hconsumed : books.Consumed approvalId signalId payload)
    (hrow : books.store.approval? approvalId = some row) : row.status ≠ .active := by
  obtain ⟨found, _, hfound, hstatus, -⟩ := hconsumed
  rw [hrow] at hfound
  cases hfound
  rw [hstatus]
  decide

/-! ## What is in hand -/

/-- The approval is in the hands of the thread, and consumed. -/
structure InHand (owner : τ) (approvalId : ℕ) (signalId : SignalId)
    (payload : Option ApprovalPayload) (books : TradingBooks τ δ ι) : Prop where
  held : books.inHand approvalId = some owner
  consumed : books.Consumed approvalId signalId payload

/-- Every order was approved, by an approval of its own, and what is in hand is not yet
ordered. -/
structure Sound (config : StrategyConfig) (books : TradingBooks τ δ ι) : Prop where
  keyed : books.Keyed
  approved : ∀ submission ∈ books.submissions, submission.Approved config books
  once : (books.submissions.map Submission.approvalId).Nodup
  inHand : ∀ approvalId self, books.inHand approvalId = some self →
    (∃ signalId payload, books.Consumed approvalId signalId payload) ∧
      approvalId ∉ books.submissions.map Submission.approvalId

/-- What the threads see of each other's steps: what `owners` have in hand stays there. -/
structure Steps (owners : τ → Prop) (books books' : TradingBooks τ δ ι) : Prop where
  moves : books.store.Moves books'.store
  kept : ∀ signalId key, books.HasKey signalId key → books'.HasKey signalId key
  inHand : ∀ approvalId self, owners self → books.inHand approvalId = some self →
    books'.inHand approvalId = some self

/-- What is in hand and what identifies a row outlast the steps of the others. -/
theorem InHand.steps {self : τ} {approvalId : ℕ} {signalId : SignalId}
    {payload : Option ApprovalPayload} (hinHand : books.InHand self approvalId signalId payload)
    (hsteps : Steps (fun thread => thread = self) books books') :
    books'.InHand self approvalId signalId payload where
  held := hsteps.inHand approvalId self rfl hinHand.held
  consumed := hinHand.consumed.moves hsteps.moves

/-! ## Runs of the approvals -/

/-- The world has the tables of the service, what the threads have in hand is in flight, and the
orders handed over have reached the order boundary. -/
structure Shown (books : TradingBooks τ δ ι) (world : ApprovalWorld δ) : Prop where
  store : world.store = books.store
  halting : world.halting = false
  inFlight : ∀ approvalId thread, books.inHand approvalId = some thread →
    approvalId ∈ world.inFlight
  boundary : world.log.filterMap ApprovalEvent.boundaryId =
    books.submissions.map Submission.approvalId

end TradingBooks

variable [DecidableEq δ] {hash : String → δ}

/-- A world that shows the books as they were can go on until it shows them as they are. -/
def TradingBooks.Advances (hash : String → δ) (books books' : TradingBooks τ δ ι) : Prop :=
  ∀ world, books.Shown world → ∃ world',
    Relation.ReflTransGen (ApprovalWorld.Step hash) world world' ∧ books'.Shown world'

/-- A run of `ApprovalWorld` takes the rows from the one store to the other, and no approval in
flight reaches the boundary or joins the others on the way. -/
def ApprovalStore.Transacts (hash : String → δ) (store store' : ApprovalStore δ) : Prop :=
  ∀ world : ApprovalWorld δ, world.store = store → world.halting = false → ∃ world',
    Relation.ReflTransGen (ApprovalWorld.Step hash) world world' ∧
      world'.store.approvals = store'.approvals ∧ world'.halting = false ∧
      world'.inFlight = world.inFlight ∧
      world'.log.filterMap ApprovalEvent.boundaryId = world.log.filterMap ApprovalEvent.boundaryId

namespace ApprovalStore.Transacts

open ApprovalWorld

variable {store store' : ApprovalStore δ}

/-- One transaction. -/
private theorem of_step
    (hstep : ∀ world : ApprovalWorld δ, world.store = store → world.halting = false → ∃ world',
      Step hash world world' ∧ world'.store.approvals = store'.approvals ∧
        world'.halting = false ∧ world'.inFlight = world.inFlight ∧
        world'.log.filterMap ApprovalEvent.boundaryId =
          world.log.filterMap ApprovalEvent.boundaryId) : Transacts hash store store' := by
  intro world hstore hhalting
  obtain ⟨world', hfirst, hrest⟩ := hstep world hstore hhalting
  exact ⟨world', .single hfirst, hrest⟩

theorem of_same (hsame : store'.approvals = store.approvals) : Transacts hash store store' := by
  intro world hstore hhalting
  exact ⟨world, .refl, (congrArg approvals hstore).trans hsame.symm, hhalting, rfl, rfl⟩

theorem trans {store'' : ApprovalStore δ} (hfirst : Transacts hash store store')
    (hsecond : Transacts hash store' store'') : Transacts hash store store'' := by
  intro world hstore hhalting
  obtain ⟨middle, hsteps, hsame, hidle, hflight, hlog⟩ := hfirst world hstore hhalting
  -- Signals and intents may have been written in between.
  obtain ⟨world', hsteps', hsame', hidle', hflight', hlog'⟩ :=
    hsecond { middle with store := store' } rfl hidle
  refine ⟨world', (hsteps.tail (.elsewhere store' hsame.symm)).trans hsteps', hsame', hidle',
    hflight'.trans hflight, hlog'.trans hlog⟩

theorem create {signalId : SignalId} {stage : ApprovalStage} {payload : Option ApprovalPayload}
    {token : String} {now expiresAt : Utc} {approvalId : ℕ}
    (hok : store.createApproval hash signalId stage payload token now expiresAt =
      (store', .ok approvalId)) : Transacts hash store store' := by
  refine of_step fun world hstore hhalting => ?_
  rw [← hstore] at hok
  exact ⟨_, .create signalId stage payload token now expiresAt store' approvalId hok, rfl, hhalting,
    rfl, rfl⟩

/-- The consumption of a review takes nothing into flight. -/
theorem consumeReview {approvalId : ℕ} {token : String} {now : Utc}
    {result : SignalId × Option ApprovalPayload}
    (hok : (consumeApproval hash approvalId token .review now store).2 = .ok result) :
    Transacts hash store (consumeApproval hash approvalId token .review now store).1 := by
  refine of_step fun world hstore hhalting => ?_
  rw [← hstore] at hok ⊢
  exact ⟨_, .consume approvalId token .review now result hok, rfl, hhalting, rfl, rfl⟩

theorem cancel (approvalId : ℕ) : Transacts hash store (store.cancelApproval approvalId).1 := by
  refine of_step fun world hstore hhalting => ?_
  rw [← hstore]
  exact ⟨_, .cancel approvalId, rfl, hhalting, rfl, rfl⟩

theorem reactivate (signalId : SignalId) :
    Transacts hash store (store.reactivateSignal signalId) := by
  refine of_step fun world hstore hhalting => ?_
  rw [← hstore]
  exact ⟨_, .reactivate signalId, rfl, hhalting, rfl, rfl⟩

theorem sweep (current : Utc) : Transacts hash store (store.sweep current) := by
  refine of_step fun world hstore hhalting => ?_
  rw [← hstore]
  exact ⟨_, .sweep current, rfl, hhalting, rfl, rfl⟩

/-- `halt()` returns some time after its transaction. -/
theorem halt : Transacts hash store store.haltTransaction := by
  intro world hstore hhalting
  rw [← hstore]
  have hcancels : Step hash world _ := .haltCancels hhalting
  have hreturns : Step hash _ _ := .haltReturns (show
    ({ world with store := world.store.haltTransaction, log := .haltCancels :: world.log,
                  halting := true } : ApprovalWorld δ).halting = true from rfl)
  exact ⟨_, .tail (.single hcancels) hreturns, rfl, rfl, rfl, rfl⟩

/-- What a run does to the rows. -/
private theorem moves_of_steps {world world' : ApprovalWorld δ}
    (hsteps : Relation.ReflTransGen (Step hash) world world') :
    world.store.Moves world'.store := by
  induction hsteps with
  | refl => exact .of_same rfl
  | tail _ hstep ih => exact ih.trans hstep.moves

theorem moves (htransacts : Transacts hash store store') : store.Moves store' := by
  obtain ⟨world', hsteps, hsame, -⟩ := htransacts { store := store } rfl rfl
  exact (moves_of_steps hsteps).trans (.of_same hsame.symm)

end ApprovalStore.Transacts

namespace TradingBooks

theorem Advances.refl (books : TradingBooks τ δ ι) : Advances hash books books :=
  fun world hshown => ⟨world, .refl, hshown⟩

theorem Advances.trans (hfirst : Advances hash books books')
    (hsecond : Advances hash books' books'') : Advances hash books books'' := by
  intro world hshown
  obtain ⟨middle, hsteps, hshown'⟩ := hfirst world hshown
  obtain ⟨world', hsteps', hshown''⟩ := hsecond middle hshown'
  exact ⟨world', hsteps.trans hsteps', hshown''⟩

/-- A transaction on the approvals, together with any write of the signals and the intents. -/
theorem Advances.of_transacts (htransacts : books.store.Transacts hash books'.store)
    (hsubmissions : books'.submissions = books.submissions)
    (hinHand : books'.inHand = books.inHand) : Advances hash books books' := by
  intro world hshown
  obtain ⟨middle, hsteps, hsame, hhalting, hflight, hlog⟩ :=
    htransacts world hshown.store hshown.halting
  refine ⟨_, hsteps.tail (.elsewhere books'.store hsame.symm), rfl, hhalting, ?_, ?_⟩
  · intro approvalId thread hheld
    rw [hinHand] at hheld
    exact hflight ▸ hshown.inFlight approvalId thread hheld
  · rw [hsubmissions, ← hshown.boundary]
    exact hlog

/-- The consumption of an execution approval takes it into flight. -/
theorem Advances.take {self : τ} {approvalId : ℕ} {token : String} {now : Utc}
    {result : SignalId × Option ApprovalPayload}
    (hok : (ApprovalStore.consumeApproval hash approvalId token .execution now books.store).2 =
      .ok result) :
    Advances hash books ((books.withStore (ApprovalStore.consumeApproval hash approvalId token
      .execution now books.store).1).take self approvalId) := by
  intro world hshown
  have hconsume : ApprovalWorld.Step hash world _ :=
    .consume approvalId token .execution now result (by rw [hshown.store]; exact hok)
  refine ⟨_, .tail (.single hconsume) (.elsewhere
    ((books.withStore (ApprovalStore.consumeApproval hash approvalId token .execution now
      books.store).1).take self approvalId).store ?_), rfl, hshown.halting, ?_, hshown.boundary⟩
  · rw [hshown.store]
    rfl
  · intro other thread hheld
    by_cases hother : other = approvalId
    · rw [hother]
      exact List.mem_cons_self
    · have hbefore : ((books.withStore (ApprovalStore.consumeApproval hash approvalId token
          .execution now books.store).1).take self approvalId).inHand other = books.inHand other :=
        Function.update_of_ne hother _ _
      rw [hbefore] at hheld
      exact List.mem_cons_of_mem _ (hshown.inFlight other thread hheld)

/-- An order is handed over for an approval in hand: it reaches the order boundary. -/
theorem Advances.handOver {self : τ} {submission : Submission ι}
    (hheld : books.inHand submission.approvalId = some self) :
    Advances hash books (books.handOver submission) := by
  intro world hshown
  refine ⟨_, .single (.boundary submission.approvalId (hshown.inFlight _ self hheld)),
    hshown.store, hshown.halting, ?_, ?_⟩
  · intro other thread hother
    have hne : other ≠ submission.approvalId := by
      rintro rfl
      have hnone : (books.handOver submission).inHand submission.approvalId = none :=
        Function.update_self submission.approvalId _ _
      rw [hnone] at hother
      cases hother
    have hbefore : (books.handOver submission).inHand other = books.inHand other :=
      Function.update_of_ne hne _ _
    rw [hbefore] at hother
    exact (List.mem_erase_of_ne hne).mpr (hshown.inFlight other thread hother)
  · exact congrArg (submission.approvalId :: ·) hshown.boundary

/-! ## Frames -/

/-- What every step does besides handing an order over. -/
structure Frame (hash : String → δ) (books books' : TradingBooks τ δ ι) : Prop where
  transacts : books.store.Transacts hash books'.store
  kept : ∀ signalId key, books.HasKey signalId key → books'.HasKey signalId key
  keyed : books.Keyed → books'.Keyed
  submissions : books'.submissions = books.submissions
  inHand : books'.inHand = books.inHand

theorem Frame.refl (books : TradingBooks τ δ ι) : Frame hash books books where
  transacts := .of_same rfl
  kept _ _ hkey := hkey
  keyed hkeyed := hkeyed
  submissions := rfl
  inHand := rfl

/-- A write of the ledger. -/
theorem Frame.repo (books : TradingBooks τ δ ι) (repo : Repository ι) :
    Frame hash books { books with repo := repo } where
  transacts := .of_same rfl
  kept _ _ hkey := hkey
  keyed hkeyed := hkeyed
  submissions := rfl
  inHand := rfl

/-- A transaction on the approvals. -/
theorem Frame.store {store : ApprovalStore δ} (htransacts : books.store.Transacts hash store) :
    Frame hash books (books.withStore store) where
  transacts := htransacts
  kept _ _ hkey := hkey
  keyed hkeyed := hkeyed
  submissions := rfl
  inHand := rfl

/-- A write of intents. -/
theorem Frame.intents (books : TradingBooks τ δ ι)
    (intents : SignalId → Option CashReleaseIntent) :
    Frame hash books { books with intents := intents } where
  transacts := .of_same rfl
  kept _ _ hkey := hkey
  keyed hkeyed := hkeyed
  submissions := rfl
  inHand := rfl

/-- A write of a row that keeps what identifies it. -/
theorem Frame.signal {signalId : SignalId} {row row' : CoreSignal}
    (hrow : books.signals signalId = some row) (hkey : row'.key = row.key) :
    Frame hash books (books.setSignal signalId row') where
  transacts := .of_same rfl
  kept other key hold := by
    obtain ⟨found, hfound, hkeyFound⟩ := hold
    by_cases hsame : other = signalId
    · subst hsame
      rw [hrow] at hfound
      cases hfound
      exact ⟨row', setSignal_self books other row', hkey.trans hkeyFound⟩
    · exact ⟨found, (setSignal_of_ne hsame row').trans hfound, hkeyFound⟩
  keyed hkeyed := by
    intro other found hfound
    by_cases hsame : other = signalId
    · subst hsame
      rw [setSignal_self] at hfound
      cases hfound
      exact (congrArg Prod.fst hkey).trans (hkeyed other row hrow)
    · rw [setSignal_of_ne hsame] at hfound
      exact hkeyed other found hfound
  submissions := rfl
  inHand := rfl

/-- The same write, if the row is there. -/
theorem Frame.updateSignal {signalId : SignalId} {set : CoreSignal → CoreSignal}
    (hkey : ∀ signal, (set signal).key = signal.key) :
    Frame hash books (books.updateSignal signalId set) := by
  cases hrow : books.signals signalId with
  | none =>
      rw [TradingBooks.updateSignal, hrow, Option.map_none,
        Function.update_eq_self_iff.mpr hrow.symm]
      exact .refl books
  | some signal =>
      rw [TradingBooks.updateSignal, hrow, Option.map_some]
      exact .signal hrow (hkey signal)

theorem Frame.moves (hframe : Frame hash books books') : books.store.Moves books'.store :=
  hframe.transacts.moves

theorem Frame.advances (hframe : Frame hash books books') : Advances hash books books' :=
  .of_transacts hframe.transacts hframe.submissions hframe.inHand

theorem Frame.trans (hfirst : Frame hash books books') (hsecond : Frame hash books' books'') :
    Frame hash books books'' where
  transacts := hfirst.transacts.trans hsecond.transacts
  kept signalId key hkey := hsecond.kept signalId key (hfirst.kept signalId key hkey)
  keyed hkeyed := hsecond.keyed (hfirst.keyed hkeyed)
  submissions := hsecond.submissions.trans hfirst.submissions
  inHand := hsecond.inHand.trans hfirst.inHand

/-! ## The discipline -/

/-- What a thread sees to: it leaves alone what is in the hands of the others, and takes
executions to the order boundary as `ApprovalWorld` does. -/
structure Guaranteed (hash : String → δ) (owner : τ) (books books' : TradingBooks τ δ ι) :
    Prop where
  steps : Steps (fun thread => thread ≠ owner) books books'
  advances : Advances hash books books'

def tradingDiscipline (hash : String → δ) (config : StrategyConfig) (self : τ) :
    Prog.Discipline (TradingBooks τ δ ι) (TradingQuery ι) TradingAnswer where
  rely _ := Steps fun thread => thread = self
  guarantee _ := Guaranteed hash self
  invariant := Sound config
  answers _ _ := True

theorem Frame.steps (hframe : Frame hash books books') (owners : τ → Prop) :
    Steps owners books books' where
  moves := hframe.moves
  kept := hframe.kept
  inHand approvalId self _ hheld := by rw [hframe.inHand, hheld]

theorem Frame.guaranteed (hframe : Frame hash books books') (self : τ) :
    Guaranteed hash self books books' :=
  ⟨hframe.steps _, hframe.advances⟩

theorem Frame.sound {config : StrategyConfig} (hframe : Frame hash books books')
    (hsound : books.Sound config) : books'.Sound config where
  keyed := hframe.keyed hsound.keyed
  approved submission hmem := by
    rw [hframe.submissions] at hmem
    obtain ⟨approved, hconsumed, hmatches⟩ := hsound.approved submission hmem
    exact ⟨approved, hconsumed.moves hframe.moves, hmatches⟩
  once := by
    rw [hframe.submissions]
    exact hsound.once
  inHand approvalId self hheld := by
    rw [hframe.inHand] at hheld
    obtain ⟨⟨signalId, payload, hconsumed⟩, hfresh⟩ := hsound.inHand approvalId self hheld
    rw [hframe.submissions]
    exact ⟨⟨signalId, payload, hconsumed.moves hframe.moves⟩, hfresh⟩

theorem tradingDiscipline_lawful (hash : String → δ) (config : StrategyConfig) (self : τ) :
    (tradingDiscipline hash config self : Prog.Discipline (TradingBooks τ δ ι) _ _).Lawful where
  rely_refl _ books :=
    have hframe : Frame hash books books := .refl books
    hframe.steps _
  rely_trans hfirst hsecond := {
    moves := hfirst.moves.trans hsecond.moves
    kept := fun _ _ hkey => hsecond.kept _ _ (hfirst.kept _ _ hkey)
    inHand := fun _ _ howner hheld =>
      hsecond.inHand _ _ howner (hfirst.inHand _ _ howner hheld) }
  guarantee_refl _ books := (Frame.refl books).guaranteed self

theorem InHand.frame {self : τ} {approvalId : ℕ} {signalId : SignalId}
    {payload : Option ApprovalPayload} (hinHand : books.InHand self approvalId signalId payload)
    (hframe : Frame hash books books') : books'.InHand self approvalId signalId payload :=
  hinHand.steps (hframe.steps _)

/-! ## Taking and handing over -/

/-- A consumption of an execution approval puts it into the hands of its thread. -/
theorem Sound.take {config : StrategyConfig} {self : τ}
    {approvalId : ℕ} {token : String} {now : Utc} {result : SignalId × Option ApprovalPayload}
    (hsound : books.Sound config)
    (hok : (ApprovalStore.consumeApproval hash approvalId token .execution now books.store).2 =
      .ok result)
    (hafter : books' = (books.withStore (ApprovalStore.consumeApproval hash approvalId token
      .execution now books.store).1).take self approvalId) :
    Guaranteed hash self books books' ∧ books'.Sound config ∧
      books'.InHand self approvalId result.1 result.2 := by
  obtain ⟨row, hrow, hactive, hstage, hfresh, -, hstore⟩ :=
    ApprovalStore.consumeApproval_of_ok hok
  have hmoves : books.store.Moves books'.store := by
    subst hafter
    exact ApprovalStore.moves_consumeApproval hash approvalId token .execution now books.store
  have hresult := ApprovalStore.consumeApproval_result hrow hok
  have hintime : now ≤ row.expiresAt := by
    rw [Utc.lt_def] at hfresh
    rw [Utc.le_def]
    omega
  have hconsumed : books'.Consumed approvalId result.1 result.2 := by
    refine ⟨{ row with status := .used, usedAt := some now }, now, ?_, rfl, hstage, ?_, ?_, rfl,
      hintime⟩
    · subst hafter
      change ApprovalStore.approval? (ApprovalStore.consumeApproval hash approvalId token .execution
        now books.store).1 approvalId = _
      rw [hstore, ApprovalStore.approval?_updateApproval, if_pos rfl, hrow, Option.map_some]
    · rw [hresult]
    · rw [hresult]
  have hother : ∀ other, other ≠ approvalId → books'.inHand other = books.inHand other := by
    subst hafter
    exact fun other hother => Function.update_of_ne hother _ _
  have hself : books'.inHand approvalId = some self := by
    subst hafter
    exact Function.update_self approvalId _ _
  have hsubmissions : books'.submissions = books.submissions := by rw [hafter]; rfl
  refine ⟨⟨⟨hmoves, ?_, ?_⟩, ?_⟩, ⟨?_, ?_, ?_, ?_⟩, ⟨hself, hconsumed⟩⟩
  · subst hafter
    exact fun _ _ hkey => hkey
  · intro other thread _ hheld
    -- What is in hand is consumed, and this approval was still active.
    obtain ⟨⟨_, _, hheldConsumed⟩, -⟩ := hsound.inHand other thread hheld
    rw [hother other, hheld]
    rintro rfl
    exact hheldConsumed.not_active hrow hactive
  · subst hafter
    exact .take hok
  · subst hafter
    exact hsound.keyed
  · intro submission hmem
    rw [hsubmissions] at hmem
    obtain ⟨approved, hbefore, hmatches⟩ := hsound.approved submission hmem
    exact ⟨approved, hbefore.moves hmoves, hmatches⟩
  · rw [hsubmissions]
    exact hsound.once
  · intro other thread hheld
    rw [hsubmissions]
    -- The approval just taken, or one that another thread still has in hand.
    by_cases hsame : other = approvalId
    · subst hsame
      refine ⟨⟨result.1, result.2, hconsumed⟩, ?_⟩
      intro hmem
      obtain ⟨submission, hsubmission, hid⟩ := List.mem_map.mp hmem
      obtain ⟨approved, hordered, -⟩ := hsound.approved submission hsubmission
      rw [hid] at hordered
      exact hordered.not_active hrow hactive
    · rw [hother other hsame] at hheld
      obtain ⟨⟨signalId, payload, hbefore⟩, hfresh⟩ := hsound.inHand other thread hheld
      exact ⟨⟨signalId, payload, hbefore.moves hmoves⟩, hfresh⟩

/-- An approved order leaves the hands of its thread. -/
theorem Sound.handOver {config : StrategyConfig} {self : τ} {submission : Submission ι}
    {approved : ApprovalPayload} (hsound : books.Sound config)
    (hinHand : books.InHand self submission.approvalId submission.signal.signalId (some approved))
    (hmatches : submission.Matches config approved) :
    Guaranteed hash self books (books.handOver submission) ∧
      (books.handOver submission).Sound config := by
  have hother : ∀ other, other ≠ submission.approvalId →
      (books.handOver submission).inHand other = books.inHand other :=
    fun other hother => Function.update_of_ne hother _ _
  have hnone : (books.handOver submission).inHand submission.approvalId = none :=
    Function.update_self submission.approvalId _ _
  refine ⟨⟨⟨.of_same rfl, fun _ _ hkey => hkey, ?_⟩, .handOver hinHand.held⟩,
    ⟨hsound.keyed, ?_, ?_, ?_⟩⟩
  · intro other thread hthread hheld
    rw [hother other, hheld]
    rintro rfl
    rw [hinHand.held] at hheld
    exact hthread (Option.some.inj hheld).symm
  · intro ordered hmem
    rcases List.mem_cons.mp hmem with rfl | hmem
    · exact ⟨approved, hinHand.consumed.moves (.of_same rfl), hmatches⟩
    · obtain ⟨payload, hconsumed, hkept⟩ := hsound.approved ordered hmem
      exact ⟨payload, hconsumed.moves (.of_same rfl), hkept⟩
  · exact List.nodup_cons.mpr ⟨(hsound.inHand _ _ hinHand.held).2, hsound.once⟩
  · intro other thread hheld
    have hne : other ≠ submission.approvalId := by
      rintro rfl
      rw [hnone] at hheld
      cases hheld
    rw [hother other hne] at hheld
    obtain ⟨⟨signalId, payload, hconsumed⟩, hfresh⟩ := hsound.inHand other thread hheld
    refine ⟨⟨signalId, payload, hconsumed.moves (.of_same rfl)⟩, ?_⟩
    exact List.not_mem_cons_of_ne_of_not_mem hne hfresh

/-! ## Statements that hand nothing over -/

/-- Wherever it is taken, the step is a frame. -/
def Framed (hash : String → δ) (update : TradingBooks τ δ ι → TradingBooks τ δ ι) : Prop :=
  ∀ books, Frame hash books (update books)

/-- Steps that are frames meet the discipline and carry along what frames keep. -/
theorem carries_of_framed {config : StrategyConfig} {self : τ} {held : Bool}
    {kept : TradingBooks τ δ ι → Prop} {program : TradingAction τ δ ι α}
    (hframed : Proc.Atoms (Framed hash) program)
    (hkept : ∀ books books', Frame hash books books' → kept books → kept books') :
    Proc.Carries (tradingDiscipline hash config self) kept held program := by
  refine Proc.Carries.of_atoms hframed fun update hupdate books hsound hbooks => ?_
  have hframe := hupdate books
  exact ⟨hframe.guaranteed self, hframe.sound hsound, hkept books _ hframe hbooks⟩

theorem tame_of_framed {config : StrategyConfig} {self : τ} {held : Bool}
    {program : TradingAction τ δ ι α} (hframed : Proc.Atoms (Framed hash) program) :
    Proc.Tame (tradingDiscipline hash config self) held program :=
  Proc.Carries.tame (carries_of_framed hframed fun _ _ _ _ => trivial)

theorem framed_of_quiet {program : TradingAction τ δ ι α} (hquiet : Proc.Quiet program) :
    Proc.Atoms (Framed hash) program := .of_quiet Frame.refl hquiet

/-- A transaction that commits a frame. -/
theorem framed_transaction
    {f : TradingBooks τ δ ι → Except TradingError (TradingBooks τ δ ι × α)}
    (hcommit : ∀ books books' value, f books = .ok (books', value) → Frame hash books books') :
    Proc.Atoms (Framed hash) (Proc.transaction f : TradingAction τ δ ι α) := by
  refine .transaction fun books => ?_
  cases hf : f books with
  | error error =>
      rw [Proc.committed_error hf]
      exact .refl books
  | ok result =>
      rw [Proc.committed_ok hf]
      exact hcommit books result.1 result.2 hf

end TradingBooks

/-! ## Rows of signals -/

namespace AllocationTradingService

theorem activeSignal_key (service : QuoteService ι) (repo : Repository ι) (signal : CoreSignal)
    (current : Utc) : (activeSignal service repo signal current).1.key = signal.key := by
  unfold activeSignal
  split
  · rfl
  · split
    · rfl
    · split <;> rfl

/-- The gate lets core BUY signals through only. -/
theorem activeSignal_core {service : QuoteService ι} {repo : Repository ι} {signal : CoreSignal}
    {current : Utc} {u : Unit} (hok : (activeSignal service repo signal current).2 = .ok u) :
    signal.action = .coreRebalanceBuy := by
  unfold activeSignal at hok
  split at hok
  · cases hok
  · split at hok
    · cases hok
    · split at hok
      · cases hok
      next hgate =>
        unfold signalGateFailure at hgate
        split at hgate
        · cases hgate
        next hcore => exact not_not.mp hcore

theorem buildQuote_key (service : QuoteService ι) (config : StrategyConfig) (repo : Repository ι)
    (signal : CoreSignal) (current : Utc) (allowCashRelease : Bool) :
    (buildQuote service config repo signal current allowCashRelease).1.2.key = signal.key := by
  have hactive := activeSignal_key service repo signal current
  unfold buildQuote
  split
  · rfl
  · split
    next hresult =>
      rw [hresult] at hactive
      exact hactive
    next hresult =>
      rw [hresult] at hactive
      dsimp only
      split
      · exact hactive
      · split <;> exact hactive

end AllocationTradingService

namespace TradingDesk

open TradingBooks

variable {desk : TradingDesk δ} {signalId : SignalId} {now : Option Utc}

omit [DecidableEq δ] in
theorem quiet_clock (now : Option Utc) : Proc.Quiet (clock now : TradingAction τ δ ι Utc) := by
  cases now with
  | none => exact .ask _
  | some current => exact .pure current

theorem framed_createApproval (desk : TradingDesk δ) (signalId : SignalId) (stage : ApprovalStage)
    (ttl : ℤ) (payload : Option ApprovalPayload) :
    Proc.Atoms (Framed desk.hash) (desk.createApproval signalId stage ttl payload : TradingAction τ δ ι _) := by
  refine .bind (framed_of_quiet (.ask _)) fun token => ?_
  refine .bind (framed_of_quiet (.ask _)) fun current => ?_
  refine .bind (framed_of_quiet (.ofExcept _)) fun expiresAt => ?_
  refine .bind (framed_transaction ?_) fun _ => framed_of_quiet (.pure _)
  intro books books' approvalId hcommit
  cases hcreated : books.store.createApproval desk.hash signalId stage payload token current
      expiresAt with
  | mk store result =>
      rw [hcreated] at hcommit
      cases result with
      | error error => cases hcommit
      | ok created =>
          cases hcommit
          exact .store (.create hcreated)

/-- A step on a row that keeps what identifies it. -/
theorem framed_withSignal
    {f : Repository ι → CoreSignal → (Repository ι × CoreSignal) × Except QuoteError α}
    (hkey : ∀ repo signal, (f repo signal).1.2.key = signal.key) :
    Proc.Atoms (Framed hash) (withSignal signalId f : TradingAction τ δ ι _) := by
  refine .attempt fun books => ?_
  cases hrow : books.signals signalId with
  | none =>
      simp only [hrow]
      exact .refl books
  | some signal =>
      simp only [hrow]
      exact (Frame.repo books _).trans (.signal hrow (hkey books.repo signal))

theorem framed_activeSignal (signalId : SignalId) (now : Option Utc) :
    Proc.Atoms (Framed hash) (activeSignal signalId now : TradingAction τ δ ι CoreSignal) := by
  refine .bind (framed_of_quiet (quiet_clock now)) fun current => ?_
  refine .bind (framed_of_quiet (.ask _)) fun service => ?_
  refine .bind (framed_withSignal ?_) fun found => framed_of_quiet (.pure found.1)
  exact fun repo signal => AllocationTradingService.activeSignal_key service repo signal current

theorem framed_buildQuote (desk : TradingDesk δ) (signalId : SignalId) (now : Option Utc)
    (allowCashRelease : Bool) :
    Proc.Atoms (Framed hash) (desk.buildQuote signalId now allowCashRelease : TradingAction τ δ ι _) := by
  refine .bind (framed_of_quiet (quiet_clock now)) fun current => ?_
  refine .bind (framed_of_quiet (.ask _)) fun service => framed_withSignal ?_
  exact fun repo signal => AllocationTradingService.buildQuote_key service desk.config repo signal
    current allowCashRelease

theorem framed_markSignal (signalId : SignalId) (status : SignalStatus) (processed : Bool)
    (reason : Option String) :
    Proc.Atoms (Framed hash) (markSignal signalId status processed reason : TradingAction τ δ ι Unit) :=
  .modify fun _ => Frame.updateSignal fun _ => rfl

theorem framed_haltTransaction :
    Proc.Atoms (Framed hash) (haltTransaction : TradingAction τ δ ι Unit) :=
  .modify fun _ => .store .halt

theorem framed_reactivateCoreSignal (signalId : SignalId)
    (signalClose maxChasePrice plannedBudget : Decimal) (validUntil : Utc) :
    Proc.Atoms (Framed hash) (reactivateCoreSignal signalId signalClose maxChasePrice plannedBudget
      validUntil : TradingAction τ δ ι Unit) := by
  refine .modify fun books => ?_
  refine (Frame.store (.reactivate signalId)).trans (Frame.updateSignal ?_)
  intro signal
  split <;> rfl

theorem framed_updateCashReleaseIntent (signalId : SignalId) (status : CashReleaseStatus)
    (executionApprovalId : Option ℕ) :
    Proc.Atoms (Framed hash)
      (updateCashReleaseIntent signalId status executionApprovalId : TradingAction τ δ ι Unit) := by
  refine framed_transaction fun books books' u hcommit => ?_
  split at hcommit
  · cases hcommit
  · cases hcommit
    exact .intents books _

theorem framed_exceptKeyError {action : TradingAction τ δ ι Unit} (haction : Proc.Atoms (Framed hash) action) :
    Proc.Atoms (Framed hash) (exceptKeyError action) := by
  refine .tryCatch haction fun error => ?_
  split
  · exact framed_of_quiet (.pure ())
  · exact framed_of_quiet (.raise _)

theorem framed_setCashIntentStatus (signalId : SignalId) (status : CashReleaseStatus) :
    Proc.Atoms (Framed hash) (setCashIntentStatus signalId status : TradingAction τ δ ι Unit) :=
  framed_exceptKeyError (framed_updateCashReleaseIntent signalId status none)

/-! ## Reviews and cancellations -/

theorem framed_consumeApproval_review (desk : TradingDesk δ) (self : τ)
    (approvalId : ℕ) (token : String) :
    Proc.Atoms (Framed desk.hash) (desk.consumeApproval self approvalId token .review :
      TradingAction τ δ ι _) := by
  refine .bind (framed_of_quiet (.ask _)) fun current => ?_
  refine framed_transaction fun books books' consumed hcommit => ?_
  split at hcommit
  next store taken hresult =>
    have hok : (ApprovalStore.consumeApproval desk.hash approvalId token .review current
        books.store).2 = .ok taken := by rw [hresult]
    have htransacts := ApprovalStore.Transacts.consumeReview hok
    rw [hresult] at htransacts
    cases hcommit
    exact .store htransacts
  · cases hcommit

theorem framed_createReviewApproval (desk : TradingDesk δ) (signalId : SignalId)
    (now : Option Utc) :
    Proc.Atoms (Framed desk.hash) (desk.createReviewApproval signalId now : TradingAction τ δ ι _) := by
  refine .bind (framed_activeSignal signalId now) fun signal => ?_
  refine .bind (framed_of_quiet (.bind (.ask _) fun _ => .read _)) fun active => ?_
  exact .bind (framed_of_quiet (.raiseIf _ _)) fun _ => framed_createApproval desk _ _ _ _

theorem framed_issueExecutionApproval (desk : TradingDesk δ) (quote : ReviewQuote) :
    Proc.Atoms (Framed desk.hash) (desk.issueExecutionApproval quote : TradingAction τ δ ι _) := by
  refine .bind (framed_createApproval desk _ _ _ _) fun created => ?_
  refine .bind (framed_exceptKeyError (framed_updateCashReleaseIntent _ _ _)) fun _ => ?_
  exact framed_of_quiet (.pure _)

theorem framed_consumeReview (desk : TradingDesk δ) (self : τ) (approvalId : ℕ)
    (token : String) (now : Option Utc) :
    Proc.Atoms (Framed desk.hash) (desk.consumeReview self approvalId token now : TradingAction τ δ ι _) := by
  refine .bind (framed_consumeApproval_review desk self approvalId token) fun consumed => ?_
  refine .bind (framed_buildQuote desk _ now true) fun quoted => ?_
  exact framed_issueExecutionApproval desk _

theorem framed_resumeQuote (desk : TradingDesk δ) (signalId : SignalId) (now : Option Utc) :
    Proc.Atoms (Framed hash) (desk.resumeQuote signalId now : TradingAction τ δ ι _) := by
  refine .tryCatch (.bind (framed_buildQuote desk signalId now true) fun quoted =>
    framed_of_quiet (.pure _)) fun error => ?_
  split
  · exact framed_of_quiet (.pure _)
  · split
    · exact framed_of_quiet (.pure _)
    · exact .bind (framed_updateCashReleaseIntent _ _ _) fun _ => framed_of_quiet (.pure _)
  · exact framed_of_quiet (.raise _)

theorem framed_resumeEach (desk : TradingDesk δ) (now : Option Utc) (pending : List SignalId) :
    Proc.Atoms (Framed desk.hash) (desk.resumeEach now pending : TradingAction τ δ ι _) := by
  induction pending with
  | nil => exact framed_of_quiet (.pure _)
  | cons signalId rest ih =>
      refine .bind (framed_resumeQuote desk signalId now) fun quote => ?_
      cases quote with
      | none => exact ih
      | some quote =>
          refine .bind (framed_issueExecutionApproval desk quote) fun issued => ?_
          exact .bind ih fun others => framed_of_quiet (.pure _)

theorem framed_resumeCashReleases (desk : TradingDesk δ) (now : Option Utc) :
    Proc.Atoms (Framed desk.hash) (desk.resumeCashReleases now : TradingAction τ δ ι _) := by
  refine .bind ?_ fun pending => framed_resumeEach desk now pending
  refine .bind (framed_of_quiet (quiet_clock now)) fun current => ?_
  refine .bind (framed_of_quiet (.ask _)) fun order => ?_
  refine framed_transaction fun books books' pending hcommit => ?_
  cases hcommit
  exact .store (.sweep current)

theorem framed_cancelApproval (desk : TradingDesk δ) (approvalId : ℕ) :
    Proc.Atoms (Framed hash) (desk.cancelApproval approvalId : TradingAction τ δ ι Unit) := by
  refine .bind (framed_transaction fun books books' signalId hcommit => ?_) fun signalId =>
    framed_setCashIntentStatus signalId .canceled
  have htransacts : books.store.Transacts hash _ := .cancel approvalId
  split at hcommit
  next hresult =>
    rw [hresult] at htransacts
    cases hcommit
    exact .store htransacts
  · cases hcommit

theorem framed_cancelCashRelease (signalId : SignalId) :
    Proc.Atoms (Framed hash) (cancelCashRelease signalId : TradingAction τ δ ι Unit) := by
  refine .bind (framed_of_quiet (.ask _)) fun canceled => ?_
  refine .bind (framed_of_quiet (.ofExcept _)) fun _ => ?_
  exact framed_updateCashReleaseIntent signalId .canceled none

/-! ## After the order -/

theorem framed_enterSymbolSafeMode (symbol : AllocationSymbol) :
    Proc.Atoms (Framed hash) (enterSymbolSafeMode symbol : TradingAction τ δ ι Unit) :=
  .modify fun books => .repo books _

theorem framed_afterFailure [DecidableEq ι] (signal : CoreSignal) (request : OrderRequest ι)
    (error : PyError) :
    Proc.Atoms (Framed hash) (afterFailure signal request error : TradingAction τ δ ι _) := by
  refine .bind (framed_of_quiet (.read _)) fun found => ?_
  refine .bind (framed_setCashIntentStatus _ _) fun _ => ?_
  split
  · refine .bind (framed_enterSymbolSafeMode signal.symbol) fun _ => ?_
    exact .bind (framed_markSignal _ _ _ _) fun _ => framed_of_quiet (.raise _)
  · exact .bind (framed_markSignal _ _ _ _) fun _ => framed_of_quiet (.raise _)

theorem framed_afterReceipt [DecidableEq ι] (signal : CoreSignal) (request : OrderRequest ι)
    (receipt : OrderReceipt ι) :
    Proc.Atoms (Framed hash) (afterReceipt signal request receipt : TradingAction τ δ ι _) := by
  refine .bind ?_ fun _ => ?_
  · unfold Proc.when
    refine .ite (fun _ => framed_transaction fun books books' u hcommit => ?_) fun _ =>
      framed_of_quiet (.pure ())
    split at hcommit
    · cases hcommit
      exact .repo books _
    · cases hcommit
  · refine .ite (fun _ => ?_) fun _ => .ite (fun _ => ?_) fun _ => ?_
    · refine .bind (framed_enterSymbolSafeMode signal.symbol) fun _ => ?_
      refine .bind (framed_markSignal _ _ _ _) fun _ => ?_
      exact .bind (framed_setCashIntentStatus _ _) fun _ => framed_of_quiet (.pure _)
    · refine .bind (framed_markSignal _ _ _ _) fun _ => ?_
      exact .bind (framed_setCashIntentStatus _ _) fun _ => framed_of_quiet (.pure _)
    · refine .bind (framed_markSignal _ _ _ _) fun _ => ?_
      exact .bind (framed_setCashIntentStatus _ _) fun _ => framed_of_quiet (.pure _)

omit [DecidableEq δ] in
theorem quiet_checkExecution (desk : TradingDesk δ) (signal : CoreSignal) (now : Option Utc) :
    Proc.Quiet (desk.checkExecution signal now : TradingAction τ δ ι Unit) := by
  refine .bind (.raiseIf _ _) fun _ => .bind (quiet_clock now) fun current => ?_
  refine .bind (.ask _) fun service => .bind (.ofExcept _) fun nextSession => ?_
  refine .bind (.raiseIf _ _) fun _ => .bind (.raiseIf _ _) fun _ => ?_
  refine .bind (.read _) fun autoEnabled => .bind (.raiseIf _ _) fun _ => ?_
  exact .bind (.raiseIf _ _) fun _ => .bind (.read _) fun trendActive => .raiseIf _ _

end TradingDesk

end JdHoldings

import JdHoldings.Safety.LatchStart
import JdHoldings.Orders.LiveProcess

/-!
# The operator's latch over whole lives of the process

The process starts, runs its calls in any interleaving, dies at any point and starts
again; a start may die on its way as well.

* The latch is set only where BUY is halted, with one exception.  A resume opens BUY
  before it takes the latch back, so that between these two writes the latch stands
  alone.  A crash there leaves it so until the next start, which halts BUY again.
* Nothing but a resume takes the latch back, and it does so in its locked section.
-/

namespace JdHoldings

namespace Latch

section Lives

variable {τ ι α : Type} [DecidableEq τ] [DecidableEq ι] {config : StrategyConfig}
  {settings : RuntimeSettings} {self : Caller τ}

/-! ## The process -/

/-- What a thread runs that is named after its call. -/
inductive CallProgram (config : StrategyConfig) (settings : RuntimeSettings) (self : Caller τ) :
    Prog (World (Caller τ) ι) (Query ι) Answer Unit → Prop
  | submit (call : self.2 = .submit) (request : OrderRequest ι) :
      CallProgram config settings self
        (Proc.forget (OrderManager.submit config settings self request))
  | halt (call : self.2 = .halt) :
      CallProgram config settings self (Proc.forget (OperatorSafetyService.halt self))
  | resume (call : self.2 = .resume) (reconciliation : ReconciliationRun ι)
      (elsewhere : Elsewhere reconciliation) :
      CallProgram config settings self
        (Proc.forget (OperatorSafetyService.resume self reconciliation))
  | quarantine (call : self.2 = .quarantine) :
      CallProgram config settings self (Proc.forget (JHAutoService.quarantine self))
  | release (call : self.2 = .release) (safetyReady : Bool) :
      CallProgram config settings self
        (Proc.forget (HardenedProductionJHAutoService.tryReleaseQuarantine self safetyReady))
  | change (call : self.2 = .change) (env : AutoEnvironment ι) (op : CapitalOp)
      (elsewhere : Elsewhere env.reconciliation.run) :
      CallProgram config settings self (Proc.forget (atomicAutoChange config env op))
  | elsewhere {α : Type} (call : self.2 = .elsewhere) (f : Repository ι → Py (Repository ι × α))
      (elsewhere : Elsewhere f) :
      CallProgram config settings self (Proc.forget (transact f))

omit [DecidableEq τ] in
/-- These are the programs of the live process. -/
theorem CallProgram.live {program : Prog (World (Caller τ) ι) (Query ι) Answer Unit}
    (hprogram : CallProgram config settings self program) : LiveProgram config settings self program := by
  cases hprogram with
  | submit _ request => exact .submit request
  | halt _ => exact .halt
  | resume _ reconciliation elsewhere => exact .resume reconciliation elsewhere.1
  | quarantine _ => exact .quarantine
  | release _ safetyReady => exact .release safetyReady
  | change _ env op elsewhere => exact .change env op elsewhere.1
  | elsewhere _ f elsewhere => exact .elsewhere f elsewhere.1

/-- Each of them keeps to the discipline of its thread. -/
theorem CallProgram.verified {program : Prog (World (Caller τ) ι) (Query ι) Answer Unit}
    (hprogram : CallProgram config settings self program) :
    Pool.Verified (discipline self) program := by
  intro world _
  cases hprogram with
  | submit _ request => exact (safe_submit config settings request).forget_wp world
  | halt _ => exact safe_halt.forget_wp world
  | resume call reconciliation elsewhere => exact (safe_resume elsewhere call).forget_wp world
  | quarantine call => exact (safe_quarantine (by rw [call]; nofun)).forget_wp world
  | release _ safetyReady => exact (safe_tryReleaseQuarantine safetyReady).forget_wp world
  | change _ env op elsewhere => exact (safe_atomicAutoChange elsewhere).forget_wp world
  | elsewhere _ f elsewhere => exact (Proc.Safe.of_tame (tame_elsewhere elsewhere)).forget_wp world

/-- A restart: the process is gone, and the next one dies somewhere in its start or comes
through. -/
def Boots (world world' : World (Caller τ) ι) : Prop :=
  ∃ reconciliation, Elsewhere reconciliation ∧
    Prog.Visits anyAnswer (liveStart reconciliation) world world'

/-- The pools the live process reaches from its first complete start on a database, over
any number of restarts. -/
def Reached (config : StrategyConfig) (settings : RuntimeSettings)
    (pool : Pool (Caller τ) (World (Caller τ) ι) (Query ι) Answer) : Prop :=
  ∃ repo reconciliation first, Elsewhere reconciliation ∧
    Prog.Runs anyAnswer (liveStart reconciliation) (World.start repo) first (.ok ()) ∧
      Pool.Lives (CallProgram config settings) Boots (Pool.idle first) pool

variable {pool pool' : Pool (Caller τ) (World (Caller τ) ι) (Query ι) Answer}

theorem Reached.sound (hreached : Reached config settings pool) :
    Pool.Sound discipline Invariant pool := by
  obtain ⟨repo, reconciliation, first, helsewhere, hruns, hlives⟩ := hreached
  refine Pool.sound_of_lives discipline_compatible (fun _ _ hprogram => hprogram.verified) ?_
    (Started.of_runs helsewhere hruns).invariant hlives
  rintro world world' hinvariant ⟨reconciliation, helsewhere, hvisits⟩
  exact hinvariant.of_visits helsewhere hvisits

omit [DecidableEq τ] in
/-- A start does not touch the latch. -/
theorem Boots.latch {world world' : World (Caller τ) ι} (hboots : Boots world world')
    (hlatch : world.repo.system.operatorHaltLatched = some true) :
    world'.repo.system.operatorHaltLatched = some true := by
  obtain ⟨reconciliation, helsewhere, hvisits⟩ := hboots
  have hstable : StartStable fun world : World (Caller τ) ι =>
      world.repo.system.operatorHaltLatched = some true :=
    fun _ _ hwrite hlatch => hwrite.latch.mpr hlatch
  exact (carries_liveStart false hstable helsewhere).visits hlatch hvisits

/-- In every state the process reaches, the latch is set only where BUY is halted, or where
a resume has opened BUY and not taken the latch back yet.  The latch is taken back by a
resume alone, under the lock. -/
theorem operator_latch_stands (hreached : Reached config settings pool) :
    pool.state.repo.system.autoEnabled = some true ∧
      (pool.state.repo.system.operatorHaltLatched = some true →
        pool.state.repo.system.operatorBuyHalt = some true ∨ ResumedLast pool.state.log) ∧
      ∀ pool', Pool.LifeStep (CallProgram config settings) Boots pool pool' →
        pool.state.repo.system.operatorHaltLatched = some true →
        pool'.state.repo.system.operatorHaltLatched ≠ some true →
        ∃ self update rest, self.2 = Call.resume ∧ pool.holder = some self ∧
          pool.thread self = .atom update rest ∧ pool'.state = update pool.state := by
  have hsound := hreached.sound
  refine ⟨hsound.invariant.enabled, hsound.invariant.latched, ?_⟩
  intro pool' hlife hlatch hcleared
  cases hlife with
  | restart booted => exact absurd (booted.latch hlatch) hcleared
  | step step =>
      obtain hsame | ⟨self, update, rest, hnext, hmoved, hkeeps⟩ :=
        hsound.guarantee_at discipline_compatible step
      · exact absurd (hsame ▸ hlatch) hcleared
      · have hkeeps : Keeps self (decide (pool.holder = some self)) pool.state pool'.state := hkeeps
        refine ⟨self, update, rest, ?_, ?_, hnext, hmoved⟩
        · by_contra hother
          exact hcleared (hkeeps.latch hother hlatch)
        · by_contra hfree
          have hkeys := hkeeps.keys (decide_eq_false hfree)
          exact hcleared ((congrArg HaltKeys.operatorHaltLatched hkeys).trans hlatch)

end Lives

/-! ## Between the two writes of a resume -/

namespace HalfResumed

/-- A commissioned database on which nothing has happened. -/
def repo : Repository ℕ := (Repository.initial ℕ).setSystem { liveCommissioned := some true }

def settings : RuntimeSettings := { liveTradingEnabled := true }

def answer : (query : Query ℕ) → Answer query
  | .authenticate _ => .ok ()
  | .send _ _ => .timeout
  | .getOrder _ => .error (.other "ConnectionError")
  | .buyingPower => .ok 50000
  | .price _ => .ok 100
  | .now => (1 : ℕ)
  | .regularSession => true
  | .activeTpPlan _ => false

/-- A reconciliation without findings. -/
def clean : ReconciliationRun ℕ := fun repo => .ok (repo, false)

theorem elsewhere_clean : Elsewhere clean := by
  constructor
  · rintro repo repo' value hok
    obtain ⟨rfl, -⟩ := Prod.mk.inj (Except.ok.inj hok)
    exact ⟨fun _ h => h, rfl⟩
  · rintro repo repo' value hok
    obtain ⟨rfl, -⟩ := Prod.mk.inj (Except.ok.inj hok)
    rfl

/-- The database after its first start. -/
def first : World (Caller Unit) ℕ :=
  ((liveStart clean : Action (Caller Unit) ℕ Unit).exec answer (World.start repo)).1

theorem first_runs :
    Prog.Runs anyAnswer (liveStart clean) (World.start repo) first (.ok ()) :=
  Prog.exec_runs (fun _ => trivial) (liveStart clean) (World.start repo)

abbrev LatchMove := Pool.Move (Caller Unit) (World (Caller Unit) ℕ) (Query ℕ) Answer

/-- A halt from its start to its end. -/
def haltMoves : List LatchMove :=
  .start ((), .halt) (Proc.forget (OperatorSafetyService.halt ((), .halt))) ::
    List.replicate 9 (.turn ((), .halt))

/-- A resume up to its opening of BUY. -/
def resumeMoves (count : ℕ) : List LatchMove :=
  .start ((), .resume) (Proc.forget (OperatorSafetyService.resume ((), .resume) clean)) ::
    List.replicate count (.turn ((), .resume))

def pool (count : ℕ) : Pool (Caller Unit) (World (Caller Unit) ℕ) (Query ℕ) Answer :=
  (Pool.idle first).run answer (haltMoves ++ resumeMoves count)

theorem reached (count : ℕ) : Reached .strategyYaml settings (pool count) := by
  refine ⟨repo, clean, first, elsewhere_clean, first_runs, (Pool.run_reachable ?_ _).lives⟩
  intro t program hmem
  simp only [haltMoves, resumeMoves, List.mem_append, List.mem_cons, List.mem_replicate,
    Pool.Move.start.injEq, reduceCtorEq, and_false, or_false] at hmem
  rcases hmem with ⟨rfl, rfl⟩ | ⟨rfl, rfl⟩
  · exact .halt rfl
  · exact .resume rfl clean elsewhere_clean

end HalfResumed

open HalfResumed in
/-- JH AUTO is enabled and the latch is set, and BUY is not halted. -/
theorem latch_outlives_halt :
    ∃ pool : Pool (Caller Unit) (World (Caller Unit) ℕ) (Query ℕ) Answer,
      Reached .strategyYaml HalfResumed.settings pool ∧
        pool.state.repo.system.autoEnabled = some true ∧
        pool.state.repo.system.operatorHaltLatched = some true ∧
        pool.state.repo.system.operatorBuyHalt = some false :=
  ⟨pool 21, reached 21, by decide +kernel, by decide +kernel, by decide +kernel⟩

open HalfResumed in
theorem operator_latch_stands_half_resumed : ResumedLast (HalfResumed.pool 21).state.log := by
  have hlatch : (HalfResumed.pool 21).state.repo.system.operatorHaltLatched = some true := by
    decide +kernel
  have hopen : (HalfResumed.pool 21).state.repo.system.operatorBuyHalt = some false := by
    decide +kernel
  rcases (operator_latch_stands (reached 21)).2.1 hlatch with hhalted | hresumed
  · rw [hopen] at hhalted
    cases hhalted
  · exact hresumed

end Latch

end JdHoldings

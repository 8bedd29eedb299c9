import JdHoldings.Orders.Submit

/-!
# The live process as a pool of threads

A thread runs one service call after the other: a submission, a halt, a resume, a
quarantine, its release, an operator change, or a transaction of one of the services
that leave the order rows and the boundary keys alone.  Any number of threads, any
schedule, a crash at any point and a restart on the same database.
-/

namespace JdHoldings

variable {τ ι : Type} [DecidableEq ι]

/-- What a thread of the live process runs. -/
inductive LiveProgram (config : StrategyConfig) (settings : RuntimeSettings) (self : τ) :
    Prog (World τ ι) (Query ι) Answer Unit → Prop
  | submit (request : OrderRequest ι) :
      LiveProgram config settings self
        (Proc.forget (OrderManager.submit config settings self request))
  | halt : LiveProgram config settings self (Proc.forget (OperatorSafetyService.halt self))
  | resume (reconciliation : ReconciliationRun ι) (elsewhere : Elsewhere reconciliation) :
      LiveProgram config settings self
        (Proc.forget (OperatorSafetyService.resume self reconciliation))
  | quarantine : LiveProgram config settings self (Proc.forget (JHAutoService.quarantine self))
  | release (safetyReady : Bool) :
      LiveProgram config settings self
        (Proc.forget (HardenedProductionJHAutoService.tryReleaseQuarantine self safetyReady))
  | change (env : AutoEnvironment ι) (op : CapitalOp)
      (elsewhere : Elsewhere env.reconciliation.run) :
      LiveProgram config settings self (Proc.forget (atomicAutoChange config env op))
  | elsewhere {α : Type} (f : Repository ι → Py (Repository ι × α)) (elsewhere : Elsewhere f) :
      LiveProgram config settings self (Proc.forget (transact f))

variable {config : StrategyConfig} {settings : RuntimeSettings}

/-- Each of them keeps to the discipline of its thread. -/
theorem LiveProgram.verified {old : ι → Prop} {self : τ}
    {program : Prog (World τ ι) (Query ι) Answer Unit}
    (hprogram : LiveProgram config settings self program) :
    Pool.Verified (orderDiscipline old self) program := by
  intro world _
  cases hprogram with
  | submit request => exact (safe_submit config settings request).forget_wp world
  | halt => exact safe_halt.forget_wp world
  | resume reconciliation elsewhere => exact (safe_resume elsewhere).forget_wp world
  | quarantine => exact safe_quarantine.forget_wp world
  | release safetyReady => exact (safe_tryReleaseQuarantine safetyReady).forget_wp world
  | change env op elsewhere => exact (safe_atomicAutoChange elsewhere).forget_wp world
  | elsewhere f elsewhere => exact (Proc.Safe.of_tame elsewhere.tame).forget_wp world

/-- The process starts on a database with an empty log. -/
def World.start (repo : Repository ι) : World τ ι := { repo := repo }

theorem World.start_invariant (repo : Repository ι) :
    OrderInvariant (fun id => (repo.orders.get? id).isSome = true)
      (World.start repo : World τ ι) where
  once := fun _ => Nat.zero_le 1
  reserved := fun _ h => absurd rfl h
  old := fun _ h => ⟨h, rfl⟩
  halted := nofun
  placings := trivial

variable [DecidableEq τ]

/-- The pools the live process reaches on a database. -/
def LiveReachable (config : StrategyConfig) (settings : RuntimeSettings) (repo : Repository ι)
    (pool : Pool τ (World τ ι) (Query ι) Answer) : Prop :=
  Pool.Reachable (LiveProgram config settings) (Pool.idle (World.start repo)) pool

theorem LiveReachable.sound {repo : Repository ι} {pool : Pool τ (World τ ι) (Query ι) Answer}
    (hreachable : LiveReachable config settings repo pool) :
    Pool.Sound (orderDiscipline fun id => (repo.orders.get? id).isSome = true)
      (OrderInvariant fun id => (repo.orders.get? id).isSome = true) pool :=
  Pool.sound_of_reachable (orderDiscipline_compatible _) (fun _ _ hprogram => hprogram.verified)
    (World.start_invariant repo) hreachable

end JdHoldings

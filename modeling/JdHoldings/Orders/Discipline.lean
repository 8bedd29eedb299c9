import JdHoldings.Automation.Quarantine
import JdHoldings.Capital.SameLedger
import JdHoldings.Library.Pool

/-!
# What the threads of the live process keep

The rely–guarantee discipline of the live process, one for each thread.

* **Rows** are never deleted, and a row belongs to the thread that inserted it.
* **Posts.**  The order-creating POST of a row is sent by its owner alone.
* **Boundary keys.**  `operator_buy_halt`, the operator latch, the quarantine and
  the launch authorization are written by the holder of `BUY_EXECUTION_LOCK` alone.

The invariant says that no id was posted twice or without a row, that BUY is halted
for as long as nobody has opened it again (`shut`), and that every BUY was placed
with the boundary open (`Placings`).
-/

namespace JdHoldings

variable {τ ι α : Type}

/-! ## Vocabulary -/

/-- The keys that only the holder of the lock writes. -/
structure BoundaryKeys where
  operatorBuyHalt : Option Bool
  operatorHaltLatched : Option Bool
  startupQuarantine : Option Bool
  launchAuthorized : Option Bool
deriving DecidableEq, Repr

def SystemState.boundary (system : SystemState) : BoundaryKeys where
  operatorBuyHalt := system.operatorBuyHalt
  operatorHaltLatched := system.operatorHaltLatched
  startupQuarantine := system.startupQuarantine
  launchAuthorized := system.launchAuthorized

/-- The boundary keys with which a BUY may be placed. -/
def BoundaryKeys.opened : BoundaryKeys where
  operatorBuyHalt := some false
  operatorHaltLatched := some false
  startupQuarantine := some false
  launchAuthorized := some true

/-- The checks of a BUY section on everything else. -/
structure BoundaryChecks.Passed (checks : BoundaryChecks) (symbol : Symbol) : Prop where
  running : checks.autoState = some .running
  portfolio : checks.safeMode.portfolioSafeMode ≠ some true
  position : ∀ enabled, symbol.enabled? = some enabled →
    ∃ state, checks.safeMode.position = some state ∧ state ≠ .safeMode

/-- Somebody has shut BUY and nobody has opened it since. -/
def shut : List (Event τ ι) → Bool
  | [] => false
  | .closed _ :: _ => true
  | .reopened _ :: _ => false
  | _ :: earlier => shut earlier

/-- Every BUY in the log was placed with the boundary open and after its checks. -/
def Placings : List (Event τ ι) → Prop
  | [] => True
  | .placing _ request system checks :: earlier =>
      (request.side = .buy → system.boundary = BoundaryKeys.opened ∧ shut earlier = false ∧
        ∃ passed, checks = some passed ∧ passed.Passed request.symbol) ∧ Placings earlier
  | _ :: earlier => Placings earlier

section Posts

variable [DecidableEq ι]

/-- The event starts the order-creating POST of the id. -/
def Event.isPostOf (clientOrderId : ι) : Event τ ι → Bool
  | .sent _ .post (.createOrder order) => decide (order.clientOrderId = clientOrderId)
  | _ => false

/-- How often the order-creating POST of the id was sent. -/
def World.posts (world : World τ ι) (clientOrderId : ι) : ℕ :=
  world.log.countP (Event.isPostOf clientOrderId)

/-- There is a row under the id. -/
def World.Reserved (world : World τ ι) (clientOrderId : ι) : Prop :=
  (world.repo.orders.get? clientOrderId).isSome = true

end Posts

/-! ## The discipline -/

variable [DecidableEq ι]

/-- What a step of `thread` keeps. -/
structure Keeps (thread : τ) (held : Bool) (world world' : World τ ι) : Prop where
  rows : ∀ id, world.Reserved id → world'.Reserved id
  owner : ∀ id, world.Reserved id → world'.reservedBy id = world.reservedBy id
  posts : ∀ id, ¬(world.Reserved id ∧ world.reservedBy id = some thread) →
    world'.posts id = world.posts id
  boundary : held = false → world'.repo.system.boundary = world.repo.system.boundary
  grows : world.log <:+ world'.log

/-- What `thread` relies on. -/
structure Relies (thread : τ) (held : Bool) (world world' : World τ ι) : Prop where
  rows : ∀ id, world.Reserved id → world'.Reserved id
  owner : ∀ id, world.Reserved id → world'.reservedBy id = world.reservedBy id
  posts : ∀ id, world.Reserved id → world.reservedBy id = some thread →
    world'.posts id = world.posts id
  boundary : held = true → world'.repo.system.boundary = world.repo.system.boundary

/-- What holds at every step.  Rows of the ids `old` were there from the start. -/
structure OrderInvariant (old : ι → Prop) (world : World τ ι) : Prop where
  once : ∀ id, world.posts id ≤ 1
  reserved : ∀ id, world.posts id ≠ 0 → world.Reserved id
  old : ∀ id, old id → world.Reserved id ∧ world.posts id = 0
  halted : shut world.log = true → world.repo.system.operatorBuyHalt = some true
  placings : Placings world.log

/-- The discipline of the thread `self`. -/
def orderDiscipline (old : ι → Prop) (self : τ) :
    Prog.Discipline (World τ ι) (Query ι) Answer where
  rely := Relies self
  guarantee := Keeps self
  invariant := OrderInvariant old
  answers := fun _ _ => True

variable {old : ι → Prop} {self : τ} {held : Bool}

theorem Keeps.refl (self : τ) (held : Bool) (world : World τ ι) : Keeps self held world world :=
  ⟨fun _ h => h, fun _ _ => rfl, fun _ _ => rfl, fun _ => rfl, List.suffix_rfl⟩

namespace Relies

variable {world world' world'' : World τ ι}

theorem refl (self : τ) (held : Bool) (world : World τ ι) : Relies self held world world :=
  ⟨fun _ h => h, fun _ _ => rfl, fun _ _ _ => rfl, fun _ => rfl⟩

theorem trans (hfirst : Relies self held world world') (hsecond : Relies self held world' world'') :
    Relies self held world world'' where
  rows := fun id h => hsecond.rows id (hfirst.rows id h)
  owner := fun id h => (hsecond.owner id (hfirst.rows id h)).trans (hfirst.owner id h)
  posts := fun id h howner =>
    (hsecond.posts id (hfirst.rows id h) ((hfirst.owner id h).trans howner)).trans
      (hfirst.posts id h howner)
  boundary := fun hheld => (hsecond.boundary hheld).trans (hfirst.boundary hheld)

end Relies

theorem orderDiscipline_lawful (old : ι → Prop) (self : τ) :
    (orderDiscipline old self).Lawful where
  rely_refl := Relies.refl self
  rely_trans := Relies.trans
  guarantee_refl := Keeps.refl self

/-- What one thread keeps, another one relies on. -/
theorem orderDiscipline_compatible (old : ι → Prop) :
    Pool.Compatible (orderDiscipline (τ := τ) old) (OrderInvariant old) where
  lawful := orderDiscipline_lawful old
  invariant_eq := fun _ => rfl
  answers := fun _ _ _ => trivial
  rely := by
    rintro t u held held' world world' hne hmutex (hkeeps : Keeps t held world world')
    show Relies u held' world world'
    refine ⟨hkeeps.rows, hkeeps.owner, fun id _ howner => hkeeps.posts id ?_, fun hheld => ?_⟩
    · rw [howner]
      exact fun h => hne (Option.some.inj h.2).symm
    · cases held with
      | false => exact hkeeps.boundary rfl
      | true => exact absurd ⟨rfl, hheld⟩ hmutex

end JdHoldings

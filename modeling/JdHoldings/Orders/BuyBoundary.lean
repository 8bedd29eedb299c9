import JdHoldings.Orders.LiveProcess
import JdHoldings.Ledger.Operations

/-!
# The BUY boundary

A BUY is placed inside a section of `BUY_EXECUTION_LOCK` that reads every key once
more.  Four of these keys are written under the same lock alone, so they still have
the value the section read when `place_order` starts: the operator halt, the operator
latch, the quarantine and the launch authorization.

Two things are not covered by the lock, and by design.

* **The state text.**  `try_release_quarantine` writes it before it takes the lock,
  on the strength of a latch it has read some time ago.  A BUY that has passed its
  checks may start while the text says `OPERATOR_HALT`.
* **The return of a call.**  `halt` gives the lock back and writes an event before it
  returns.  A resume of somebody else fits in between, so what shuts BUY is the
  section of the halt and not its return.
-/

namespace JdHoldings

section Boundary

variable {τ ι : Type}

theorem Placings.tail {event : Event τ ι} {log : List (Event τ ι)}
    (hplacings : Placings (event :: log)) : Placings log := by
  cases event with
  | placing thread request system checks => exact hplacings.2
  | _ => exact hplacings

theorem Placings.of_append {later log : List (Event τ ι)} (hplacings : Placings (later ++ log)) :
    Placings log := by
  induction later with
  | nil => exact hplacings
  | cons event later ih => exact ih hplacings.tail

/-- Where BUY is not shut, every shutting has been undone since. -/
theorem reopened_of_not_shut {middle before : List (Event τ ι)} {u : τ}
    (hshut : shut (middle ++ .closed u :: before) = false) : ∃ v, .reopened v ∈ middle := by
  induction middle with
  | nil => cases hshut
  | cons event middle ih =>
      cases event with
      | closed thread => cases hshut
      | reopened thread => exact ⟨thread, List.mem_cons_self⟩
      | _ =>
          obtain ⟨v, hv⟩ := ih hshut
          exact ⟨v, List.mem_cons_of_mem _ hv⟩

variable [DecidableEq ι] [DecidableEq τ] {config : StrategyConfig} {settings : RuntimeSettings}

/-- Whatever the threads do: when a BUY is placed, the four boundary keys are in
order, its section has seen RUNNING and no SAFE_MODE, and whoever shut BUY before has
been followed by a resume or a release that opened it again. -/
theorem buy_placed_inside_boundary {repo : Repository ι}
    {pool : Pool τ (World τ ι) (Query ι) Answer}
    (hreachable : LiveReachable config settings repo pool) {later earlier : List (Event τ ι)}
    {t : τ} {request : OrderRequest ι} {system : SystemState} {checks : Option BoundaryChecks}
    (hlog : pool.state.log = later ++ .placing t request system checks :: earlier)
    (hbuy : request.side = .buy) :
    system.boundary = BoundaryKeys.opened ∧
      (∃ passed, checks = some passed ∧ passed.Passed request.symbol) ∧
      ∀ middle u before, earlier = middle ++ .closed u :: before → ∃ v, .reopened v ∈ middle := by
  have hplacings := hreachable.sound.invariant.placings
  rw [hlog] at hplacings
  obtain ⟨hopened, hshut, hpassed⟩ := hplacings.of_append.1 hbuy
  refine ⟨hopened, hpassed, ?_⟩
  rintro middle u before rfl
  exact reopened_of_not_shut hshut

end Boundary

/-! ## Two schedules -/

namespace BuyBoundary

section Claims

variable {τ ι : Type}

/-- Every BUY was placed while the persisted state was RUNNING. -/
def placedWhileRunning : List (Event τ ι) → Bool
  | [] => true
  | .placing _ request system _ :: earlier =>
      (decide (request.side = .sell) || decide (system.autoState = some .running)) &&
        placedWhileRunning earlier
  | _ :: earlier => placedWhileRunning earlier

/-- A halt or a quarantine has returned, and nobody has opened BUY since. -/
def returnedLast : List (Event τ ι) → Bool
  | [] => false
  | .returned _ :: _ => true
  | .reopened _ :: _ => false
  | _ :: earlier => returnedLast earlier

/-- No BUY was placed after a return that nobody has undone since. -/
def quietAfterReturn : List (Event τ ι) → Bool
  | [] => true
  | .placing _ request _ _ :: earlier =>
      (decide (request.side = .sell) || !returnedLast earlier) && quietAfterReturn earlier
  | _ :: earlier => quietAfterReturn earlier

end Claims

inductive Thread where
  | automation
  | operator
  | trader
deriving DecidableEq

def settings : RuntimeSettings := { liveTradingEnabled := true }

/-- A running account with a frozen QQQ target. -/
def repo : Repository ℕ :=
  Repository.launched
    { SystemState.launched 10000 10000 10000 with
      portfolioSafeMode := some false
      autoVersion := some JdHoldings.autoVersion
      baseCapital := some 10000
      ratio := some 1
      targetPrincipal := some 10000 } .qqq 10

/-- The broker takes orders and never answers; the session is regular. -/
def answer : (query : Query ℕ) → Answer query
  | .authenticate _ => .ok ()
  | .send _ _ => .timeout
  | .getOrder _ => .error (.other "ConnectionError")
  | .buyingPower => .ok 50000
  | .price _ => .ok 100
  | .now => (1 : ℕ)
  | .regularSession => true
  | .activeTpPlan _ => false

abbrev LiveMove := Pool.Move Thread (World Thread ℕ) (Query ℕ) Answer

def halt (self : Thread) : LiveMove :=
  .start self (Proc.forget (OperatorSafetyService.halt self))

/-- A resume after a reconciliation without findings. -/
def resume (self : Thread) : LiveMove :=
  .start self (Proc.forget (OperatorSafetyService.resume self fun repo => .ok (repo, false)))

def release (self : Thread) : LiveMove :=
  .start self (Proc.forget (HardenedProductionJHAutoService.tryReleaseQuarantine self true))

def submit (self : Thread) : LiveMove :=
  .start self (Proc.forget (OrderManager.submit .strategyYaml settings self
    (BuyRequest.core 7 .qqq 3 100 (by decide)).toOrderRequest))

def turns (count : ℕ) (self : Thread) : List LiveMove := List.replicate count (.turn self)

/-- The automation reads the latch of a halt and is slow to write `OPERATOR_HALT`: in
the meantime the operator resumes, and a BUY passes its checks. -/
def slowStateWrite : List LiveMove :=
  [halt .operator] ++ turns 7 .operator ++ [release .automation] ++ turns 35 .automation ++
    [resume .operator] ++ turns 23 .operator ++ [submit .trader] ++ turns 36 .trader ++
    turns 1 .automation ++ turns 7 .trader

/-- A halt has shut BUY and not returned yet when another thread resumes. -/
def resumeBeforeReturn : List LiveMove :=
  [halt .operator] ++ turns 6 .operator ++ [resume .automation] ++ turns 23 .automation ++
    turns 1 .operator ++ [submit .trader] ++ turns 43 .trader

def pool (moves : List LiveMove) : Pool Thread (World Thread ℕ) (Query ℕ) Answer :=
  (Pool.idle (World.start repo)).run answer moves

theorem elsewhere_clean : Elsewhere fun repo : Repository ℕ => .ok (repo, false) := by
  rintro repo repo' value hok
  obtain ⟨rfl, -⟩ := Prod.mk.inj (Except.ok.inj hok)
  exact ⟨fun _ h => h, rfl⟩

/-- The programs of the two schedules. -/
inductive IsService : LiveMove → Prop
  | turn (t : Thread) : IsService (.turn t)
  | halt (t : Thread) : IsService (halt t)
  | resume (t : Thread) : IsService (resume t)
  | release (t : Thread) : IsService (release t)
  | submit (t : Thread) : IsService (submit t)

theorem reachable {moves : List LiveMove} (hmoves : ∀ move ∈ moves, IsService move) :
    LiveReachable .strategyYaml settings repo (pool moves) := by
  refine Pool.run_reachable (fun t program hmem => ?_) _
  generalize hmove : Pool.Move.start t program = move at hmem
  cases hmoves move hmem with
  | turn u => cases hmove
  | halt u => cases hmove; exact .halt
  | resume u => cases hmove; exact .resume _ elsewhere_clean
  | release u => cases hmove; exact .release true
  | submit u => cases hmove; exact .submit _

def placesBuy : Event Thread ℕ → Bool
  | .placing _ request _ _ => decide (request.side = .buy)
  | _ => false

/-- The schedules consist of services and turns. -/
theorem isService_of_mem {moves : List LiveMove}
    (hmoves : moves = slowStateWrite ∨ moves = resumeBeforeReturn) :
    ∀ move ∈ moves, IsService move := by
  intro move hmem
  rcases hmoves with rfl | rfl
  · simp only [slowStateWrite, turns, List.mem_append, List.mem_singleton,
      List.mem_replicate] at hmem
    rcases hmem with ((((((((rfl | ⟨-, rfl⟩) | rfl) | ⟨-, rfl⟩) | rfl) | ⟨-, rfl⟩) | rfl) |
      ⟨-, rfl⟩) | ⟨-, rfl⟩) | ⟨-, rfl⟩ <;> constructor
  · simp only [resumeBeforeReturn, turns, List.mem_append, List.mem_singleton,
      List.mem_replicate] at hmem
    rcases hmem with (((((rfl | ⟨-, rfl⟩) | rfl) | ⟨-, rfl⟩) | ⟨-, rfl⟩) | rfl) | ⟨-, rfl⟩ <;>
      constructor

end BuyBoundary

open BuyBoundary in
/-- A BUY starts while the persisted state is not RUNNING, and a BUY starts after a
halt has returned, with no resume in between. -/
theorem boundary_outside_lock :
    (∃ pool : Pool Thread (World Thread ℕ) (Query ℕ) Answer,
      LiveReachable .strategyYaml BuyBoundary.settings BuyBoundary.repo pool ∧
        placedWhileRunning pool.state.log = false) ∧
      ∃ pool : Pool Thread (World Thread ℕ) (Query ℕ) Answer,
        LiveReachable .strategyYaml BuyBoundary.settings BuyBoundary.repo pool ∧
          quietAfterReturn pool.state.log = false :=
  ⟨⟨pool slowStateWrite, reachable (isService_of_mem (Or.inl rfl)), by decide +kernel⟩,
    ⟨pool resumeBeforeReturn, reachable (isService_of_mem (Or.inr rfl)), by decide +kernel⟩⟩

open BuyBoundary in
theorem buy_placed_inside_boundary_after_resume :
    ∃ later earlier t request system checks,
      (pool resumeBeforeReturn).state.log = later ++ .placing t request system checks :: earlier ∧
        request.side = .buy ∧ system.boundary = BoundaryKeys.opened := by
  have hplaced : (pool resumeBeforeReturn).state.log.any placesBuy = true := by decide +kernel
  obtain ⟨event, hmem, hevent⟩ := List.any_eq_true.mp hplaced
  cases event with
  | placing t request system checks =>
      obtain ⟨later, earlier, hlog⟩ := List.append_of_mem hmem
      have hbuy : request.side = .buy := of_decide_eq_true hevent
      have hreachable := reachable (isService_of_mem (Or.inr rfl))
      exact ⟨later, earlier, t, request, system, checks, hlog, hbuy,
        (buy_placed_inside_boundary hreachable hlog hbuy).1⟩
  | _ => cases hevent

end JdHoldings

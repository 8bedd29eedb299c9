import JdHoldings.Orders.LiveProcess

/-!
# The order-creating POST is sent at most once

An order reaches the broker through `submit` alone, and `submit` inserts its row
before it posts.  The row is inserted once (`INSERT OR IGNORE`), by one thread, and
only that thread posts it, in the same call and before anything it does with the
answer.  A timeout, a 401 or a crash leaves the row behind, and a row that is there
is never posted by a later call.
-/

namespace JdHoldings

theorem World.posts_le_of_suffix {τ ι : Type} [DecidableEq ι] {world world' : World τ ι} (hgrows : world.log <:+ world'.log)
    (id : ι) : world.posts id ≤ world'.posts id :=
  hgrows.sublist.countP_le

/-- In whatever order any number of threads submit, time out, crash and restart: the
order-creating POST of an id is sent at most once, and not at all when the database
had the row from the start.  The step that sends it finds the row reserved and not
yet posted. -/
theorem order_posted_at_most_once {τ ι : Type} [DecidableEq ι] [DecidableEq τ]
    {config : StrategyConfig} {settings : RuntimeSettings} {repo : Repository ι}
    {pool : Pool τ (World τ ι) (Query ι) Answer}
    (hreachable : LiveReachable config settings repo pool) (id : ι) :
    pool.state.posts id ≤ 1 ∧
      ((repo.orders.get? id).isSome = true → pool.state.posts id = 0) ∧
      ∀ pool', Pool.Step (LiveProgram config settings) pool pool' →
        pool'.state.posts id ≠ pool.state.posts id →
          pool.state.Reserved id ∧ pool.state.posts id = 0 := by
  have hsound := hreachable.sound
  refine ⟨hsound.invariant.once id, fun hrow => (hsound.invariant.old id hrow).2, ?_⟩
  intro pool' hstep hsent
  have honce : pool'.state.posts id ≤ 1 := by
    have hreachable' : LiveReachable config settings repo pool' := hreachable.tail hstep
    exact hreachable'.sound.invariant.once id
  rcases hsound.guarantee (orderDiscipline_compatible _) hstep with hsame | ⟨t, held, hkeeps⟩
  · exact absurd (by rw [hsame]) hsent
  · have hkeeps : Keeps t held pool.state pool'.state := hkeeps
    have howner : pool.state.Reserved id ∧ pool.state.reservedBy id = some t := by
      by_contra hnot
      exact hsent (hkeeps.posts id hnot)
    have hle := World.posts_le_of_suffix hkeeps.grows id
    exact ⟨howner.1, by omega⟩

/-! ## A run with a timeout and a crash -/

namespace PostOnce

def repo : Repository ℕ :=
  (Repository.initial ℕ).setSystem { liveCommissioned := some true }

def settings : RuntimeSettings := { liveTradingEnabled := true }

theorem threeShares : 0 < 3 := by decide

def sell : OrderRequest ℕ where
  clientOrderId := 7
  symbol := .allocation .qqq
  side := .sell
  orderType := .limit
  quantity := 3
  price := some 100
  purpose := .coreRebalanceSell
  quantity_pos := threeShares
  side_eq := rfl

/-- Nobody ever hears from the broker. -/
def answer : (query : Query ℕ) → Answer query
  | .authenticate _ => .ok ()
  | .send _ _ => .timeout
  | .getOrder _ => .error (.other "ConnectionError")
  | .buyingPower => .error (.other "ConnectionError")
  | .price _ => .error (.other "ConnectionError")
  | .now => (0 : ℕ)
  | .regularSession => true
  | .activeTpPlan _ => false

def submission (self : Bool) : Prog (World Bool ℕ) (Query ℕ) Answer Unit :=
  Proc.forget (OrderManager.submit .strategyYaml settings self sell)

/-- Both threads miss the row, one reserves and posts it, the process dies before the
answer, and the other one tries again. -/
def moves : List (Pool.Move Bool (World Bool ℕ) (Query ℕ) Answer) :=
  [.start true (submission true), .start false (submission false), .turn true, .turn false] ++
    List.replicate 6 (.turn true) ++ List.replicate 4 (.turn false) ++ [.crash] ++
    [.start false (submission false)] ++ List.replicate 12 (.turn false)

def pool : Pool Bool (World Bool ℕ) (Query ℕ) Answer :=
  (Pool.idle (World.start repo)).run answer moves

theorem reachable : LiveReachable .strategyYaml settings repo pool := by
  refine Pool.run_reachable (fun t program hmem => ?_) _
  have hsubmission : program = submission t := by
    simp [moves] at hmem
    rcases hmem with ⟨rfl, hprogram⟩ | ⟨rfl, hprogram⟩ <;> exact hprogram
  rw [hsubmission]
  exact .submit sell

end PostOnce

theorem order_posted_at_most_once_after_crash :
    PostOnce.pool.state.posts 7 = 1 ∧ PostOnce.pool.state.Reserved 7 ∧
      PostOnce.pool.state.posts 7 ≤ 1 :=
  ⟨by decide +kernel, by rw [World.Reserved]; decide +kernel,
    (order_posted_at_most_once PostOnce.reachable 7).1⟩

end JdHoldings

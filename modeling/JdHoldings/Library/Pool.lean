import Mathlib.Logic.Function.Basic
import Mathlib.Logic.Relation
import JdHoldings.Library.Prog

/-!
# A pool of threads

The threads of a process share a state and one mutex, and the scheduler may run
any of them at any step.  A thread that has finished may start another program,
and the process may crash at any point: the mutex is gone, every program is
forgotten, and the shared state stays.

Rely–guarantee reasoning is sound for this pool (`invariant_of_reachable`).  What
has to be proved about each program is its weakest precondition alone; what has to
be proved about the threads together is that a step one of them guarantees is a
step the others rely on (`Compatible`).

`run` executes a schedule, for runs that are to be looked at step by step.
-/

/-- The threads, the state they share, and the holder of the mutex. -/
structure Pool (τ σ Q : Type) (A : Q → Type) where
  state : σ
  holder : Option τ
  thread : τ → Prog σ Q A Unit

namespace Pool

variable {τ σ Q : Type} {A : Q → Type}

/-- No thread is running and the mutex is free. -/
def idle (state : σ) : Pool τ σ Q A := ⟨state, none, fun _ => .done ()⟩

variable [DecidableEq τ]

/-- One step of the scheduler.  A thread may start the programs `starts` allows it. -/
inductive Step (starts : τ → Prog σ Q A Unit → Prop) :
    Pool τ σ Q A → Pool τ σ Q A → Prop
  | start {pool : Pool τ σ Q A} {t : τ} {program : Prog σ Q A Unit} (free : pool.thread t = .done ())
      (allowed : starts t program) :
      Step starts pool { pool with thread := Function.update pool.thread t program }
  | acquire {pool : Pool τ σ Q A} {t : τ} {rest : Prog σ Q A Unit}
      (next : pool.thread t = .acquire rest) (free : pool.holder = none) :
      Step starts pool
        { pool with holder := some t, thread := Function.update pool.thread t rest }
  | release {pool : Pool τ σ Q A} {t : τ} {rest : Prog σ Q A Unit}
      (next : pool.thread t = .release rest) (held : pool.holder = some t) :
      Step starts pool { pool with holder := none, thread := Function.update pool.thread t rest }
  | atom {pool : Pool τ σ Q A} {t : τ} {update : σ → σ} {rest : σ → Prog σ Q A Unit}
      (next : pool.thread t = .atom update rest) :
      Step starts pool { pool with
        state := update pool.state, thread := Function.update pool.thread t (rest pool.state) }
  | ask {pool : Pool τ σ Q A} {t : τ} {query : Q} {rest : A query → Prog σ Q A Unit}
      (next : pool.thread t = .ask query rest) (answer : A query) :
      Step starts pool { pool with thread := Function.update pool.thread t (rest answer) }
  | crash {pool : Pool τ σ Q A} : Step starts pool (idle pool.state)

/-- Any number of steps. -/
def Reachable (starts : τ → Prog σ Q A Unit → Prop) : Pool τ σ Q A → Pool τ σ Q A → Prop :=
  Relation.ReflTransGen (Step starts)

/-! ## Rely–guarantee -/

/-- The disciplines of the threads fit together. -/
structure Compatible (D : τ → Prog.Discipline σ Q A) (invariant : σ → Prop) : Prop where
  lawful : ∀ t, (D t).Lawful
  invariant_eq : ∀ t, (D t).invariant = invariant
  answers : ∀ t query answer, (D t).answers query answer
  /-- What one thread guarantees, another one relies on.  Not both hold the mutex. -/
  rely : ∀ {t u : τ} {held held' : Bool} {state state' : σ}, t ≠ u → ¬(held = true ∧ held' = true) →
    (D t).guarantee held state state' → (D u).rely held' state state'

/-- A program the thread may start at any time: it needs nothing but the invariant,
and it gives the mutex back. -/
def Verified (D : Prog.Discipline σ Q A) (program : Prog σ Q A Unit) : Prop :=
  ∀ state, D.invariant state → program.wp D (fun held _ _ => held = false) false state

/-- Every thread is in the middle of a verified program. -/
structure Sound (D : τ → Prog.Discipline σ Q A) (invariant : σ → Prop) (pool : Pool τ σ Q A) :
    Prop where
  invariant : invariant pool.state
  threads : ∀ t, (pool.thread t).wp (D t) (fun held _ _ => held = false)
    (decide (pool.holder = some t)) pool.state

variable {D : τ → Prog.Discipline σ Q A} {invariant : σ → Prop}

theorem sound_idle {state : σ} (hinvariant : invariant state) :
    Sound D invariant (idle state : Pool τ σ Q A) :=
  ⟨hinvariant, fun _ => by simp [idle, Prog.wp]⟩

omit [DecidableEq τ] in
/-- The threads that did not move keep their weakest precondition. -/
private theorem others_kept {t u : τ} {held held' : Bool} {state state' : σ}
    {program : Prog σ Q A Unit} (hcompatible : Compatible D invariant) (hne : t ≠ u)
    (hmutex : ¬(held = true ∧ held' = true)) (hguarantee : (D t).guarantee held state state')
    (hwp : program.wp (D u) (fun held _ _ => held = false) held' state) :
    program.wp (D u) (fun held _ _ => held = false) held' state' :=
  Prog.wp_stable (hcompatible.lawful u) (fun _ _ _ _ _ hpost => hpost) hwp
    (hcompatible.rely hne hmutex hguarantee)

/-- One step of the scheduler keeps the pool sound. -/
theorem Sound.step {starts : τ → Prog σ Q A Unit → Prop} {pool pool' : Pool τ σ Q A}
    (hcompatible : Compatible D invariant)
    (hverified : ∀ t program, starts t program → Verified (D t) program)
    (hsound : Sound D invariant pool) (hstep : Step starts pool pool') :
    Sound D invariant pool' := by
  cases hstep with
  | @start t program free allowed =>
      refine ⟨hsound.invariant, fun u => ?_⟩
      by_cases hu : u = t
      · subst hu
        -- A finished thread has given the mutex back.
        have hdone := hsound.threads u
        rw [free] at hdone
        have hfree : decide (pool.holder = some u) = false := hdone
        simp only [Function.update_self, hfree]
        refine hverified u program allowed pool.state ?_
        rw [hcompatible.invariant_eq]
        exact hsound.invariant
      · simp only [Function.update_of_ne hu]
        exact hsound.threads u
  | @acquire t rest next free =>
      refine ⟨hsound.invariant, fun u => ?_⟩
      by_cases hu : u = t
      · subst hu
        have hwp := hsound.threads u
        rw [next] at hwp
        obtain ⟨-, hrest⟩ := hwp
        simp only [Function.update_self, decide_true]
        exact hrest pool.state ((hcompatible.lawful u).rely_refl false pool.state)
      · have hwp := hsound.threads u
        have hother : decide (some t = some u) = false := by simpa using Ne.symm hu
        simp only [free, reduceCtorEq, decide_false] at hwp
        simp only [Function.update_of_ne hu, hother]
        exact hwp
  | @release t rest next held =>
      -- Giving the mutex back changes no state.
      refine ⟨hsound.invariant, fun u => ?_⟩
      by_cases hu : u = t
      · subst hu
        have hwp := hsound.threads u
        rw [next] at hwp
        obtain ⟨-, hrest⟩ := hwp
        simp only [Function.update_self, reduceCtorEq, decide_false]
        exact hrest pool.state ((hcompatible.lawful u).rely_refl true pool.state)
      · have hwp := hsound.threads u
        have hother : decide (pool.holder = some u) = false := by
          simpa [held] using Ne.symm hu
        simp only [hother] at hwp
        simp only [Function.update_of_ne hu, reduceCtorEq, decide_false]
        exact hwp
  | @atom t update rest next =>
      -- One atom: the thread guarantees it, and every other thread relies on it.
      have hwp := hsound.threads t
      rw [next] at hwp
      obtain ⟨hguarantee, hkept, hrest⟩ := hwp pool.state
        ((hcompatible.lawful t).rely_refl _ pool.state)
        (by rw [hcompatible.invariant_eq]; exact hsound.invariant)
      rw [hcompatible.invariant_eq] at hkept
      refine ⟨hkept, fun u => ?_⟩
      by_cases hu : u = t
      · subst hu
        simp only [Function.update_self]
        exact hrest
      · simp only [Function.update_of_ne hu]
        refine others_kept hcompatible (Ne.symm hu) ?_ hguarantee (hsound.threads u)
        -- Two threads do not hold the mutex at once.
        rintro ⟨ht, hu'⟩
        have hholder := (of_decide_eq_true ht).symm.trans (of_decide_eq_true hu')
        exact hu (Option.some.inj hholder).symm
  | @ask t query rest next answer =>
      refine ⟨hsound.invariant, fun u => ?_⟩
      by_cases hu : u = t
      · subst hu
        have hwp := hsound.threads u
        rw [next] at hwp
        simp only [Function.update_self]
        exact hwp answer pool.state (hcompatible.answers u query answer)
          ((hcompatible.lawful u).rely_refl _ pool.state)
      · simp only [Function.update_of_ne hu]
        exact hsound.threads u
  | crash => exact sound_idle hsound.invariant

/-- Every reachable pool is sound. -/
theorem sound_of_reachable {starts : τ → Prog σ Q A Unit → Prop} {state : σ}
    {pool : Pool τ σ Q A} (hcompatible : Compatible D invariant)
    (hverified : ∀ t program, starts t program → Verified (D t) program)
    (hinitial : invariant state) (hreachable : Reachable starts (idle state) pool) :
    Sound D invariant pool := by
  induction hreachable with
  | refl => exact sound_idle hinitial
  | tail _ hstep ih => exact ih.step hcompatible hverified hstep

/-- A change of the shared state is the step of one thread, which guarantees it with the
mutex as it stands. -/
theorem Sound.guarantee_at {starts : τ → Prog σ Q A Unit → Prop} {pool pool' : Pool τ σ Q A}
    (hcompatible : Compatible D invariant) (hsound : Sound D invariant pool)
    (hstep : Step starts pool pool') :
    pool'.state = pool.state ∨ ∃ t update rest, pool.thread t = .atom update rest ∧
      pool'.state = update pool.state ∧
        (D t).guarantee (decide (pool.holder = some t)) pool.state pool'.state := by
  cases hstep with
  | @atom t update rest next =>
      have hwp := hsound.threads t
      rw [next] at hwp
      obtain ⟨hguarantee, -, -⟩ := hwp pool.state
        ((hcompatible.lawful t).rely_refl _ pool.state)
        (by rw [hcompatible.invariant_eq]; exact hsound.invariant)
      exact Or.inr ⟨t, update, rest, next, rfl, hguarantee⟩
  | start free allowed => exact Or.inl rfl
  | acquire next free => exact Or.inl rfl
  | release next held => exact Or.inl rfl
  | ask next answer => exact Or.inl rfl
  | crash => exact Or.inl rfl

/-- Every change of the shared state is a step some thread guarantees. -/
theorem Sound.guarantee {starts : τ → Prog σ Q A Unit → Prop} {pool pool' : Pool τ σ Q A}
    (hcompatible : Compatible D invariant) (hsound : Sound D invariant pool)
    (hstep : Step starts pool pool') :
    pool'.state = pool.state ∨ ∃ t held, (D t).guarantee held pool.state pool'.state := by
  obtain hsame | ⟨t, _, _, -, -, hguarantee⟩ := hsound.guarantee_at hcompatible hstep
  · exact Or.inl hsame
  · exact Or.inr ⟨t, _, hguarantee⟩

/-! ## Restarts -/

/-- A step of the scheduler, or a restart: the process dies, and the next one writes what
`boots` says before it starts a thread. -/
inductive LifeStep (starts : τ → Prog σ Q A Unit → Prop) (boots : σ → σ → Prop) :
    Pool τ σ Q A → Pool τ σ Q A → Prop
  | step {pool pool' : Pool τ σ Q A} (step : Step starts pool pool') :
      LifeStep starts boots pool pool'
  | restart {pool : Pool τ σ Q A} {state : σ} (booted : boots pool.state state) :
      LifeStep starts boots pool (idle state)

/-- Any number of steps and restarts. -/
def Lives (starts : τ → Prog σ Q A Unit → Prop) (boots : σ → σ → Prop) :
    Pool τ σ Q A → Pool τ σ Q A → Prop :=
  Relation.ReflTransGen (LifeStep starts boots)

theorem Reachable.lives {starts : τ → Prog σ Q A Unit → Prop} {boots : σ → σ → Prop}
    {pool pool' : Pool τ σ Q A} (hreachable : Reachable starts pool pool') :
    Lives starts boots pool pool' := by
  induction hreachable with
  | refl => exact .refl
  | tail _ hstep ih => exact ih.tail (.step hstep)

theorem Sound.lifeStep {starts : τ → Prog σ Q A Unit → Prop} {boots : σ → σ → Prop}
    {pool pool' : Pool τ σ Q A} (hcompatible : Compatible D invariant)
    (hverified : ∀ t program, starts t program → Verified (D t) program)
    (hboots : ∀ state state', invariant state → boots state state' → invariant state')
    (hsound : Sound D invariant pool) (hstep : LifeStep starts boots pool pool') :
    Sound D invariant pool' := by
  cases hstep with
  | step step => exact hsound.step hcompatible hverified step
  | restart booted => exact sound_idle (hboots _ _ hsound.invariant booted)

/-- Every pool is sound, whatever the schedule and however often the process restarts. -/
theorem sound_of_lives {starts : τ → Prog σ Q A Unit → Prop} {boots : σ → σ → Prop} {state : σ}
    {pool : Pool τ σ Q A} (hcompatible : Compatible D invariant)
    (hverified : ∀ t program, starts t program → Verified (D t) program)
    (hboots : ∀ state state', invariant state → boots state state' → invariant state')
    (hinitial : invariant state) (hlives : Lives starts boots (idle state) pool) :
    Sound D invariant pool := by
  induction hlives with
  | refl => exact sound_idle hinitial
  | tail _ hstep ih => exact ih.lifeStep hcompatible hverified hboots hstep

/-! ## Schedules -/

/-- Let one thread take its next step, if it can. -/
def advance (answer : (query : Q) → A query) (pool : Pool τ σ Q A) (t : τ) : Pool τ σ Q A :=
  match pool.thread t with
  | .done _ => pool
  | .acquire rest =>
      match pool.holder with
      | none => { pool with holder := some t, thread := Function.update pool.thread t rest }
      | some _ => pool
  | .release rest =>
      if pool.holder = some t then
        { pool with holder := none, thread := Function.update pool.thread t rest }
      else pool
  | .atom update rest => { pool with
      state := update pool.state, thread := Function.update pool.thread t (rest pool.state) }
  | .ask query rest =>
      { pool with thread := Function.update pool.thread t (rest (answer query)) }

theorem advance_reachable (starts : τ → Prog σ Q A Unit → Prop) (answer : (query : Q) → A query)
    (pool : Pool τ σ Q A) (t : τ) : Reachable starts pool (pool.advance answer t) := by
  unfold advance
  split
  · exact .refl
  · rename_i rest hnext
    split
    · rename_i hfree
      exact .single (.acquire hnext hfree)
    · exact .refl
  · rename_i rest hnext
    split
    · rename_i hheld
      exact .single (.release hnext hheld)
    · exact .refl
  · rename_i update rest hnext
    exact .single (.atom hnext)
  · rename_i query rest hnext
    exact .single (.ask hnext (answer query))

/-- A schedule: whose turn it is, a program a thread starts, or a crash. -/
inductive Move (τ σ Q : Type) (A : Q → Type)
  | turn (t : τ)
  | start (t : τ) (program : Prog σ Q A Unit)
  | crash

/-- A thread that is not finished does not start anything. -/
def move (answer : (query : Q) → A query) (pool : Pool τ σ Q A) : Move τ σ Q A → Pool τ σ Q A
  | .turn t => pool.advance answer t
  | .start t program =>
      match pool.thread t with
      | .done _ => { pool with thread := Function.update pool.thread t program }
      | _ => pool
  | .crash => idle pool.state

def run (answer : (query : Q) → A query) (pool : Pool τ σ Q A) (moves : List (Move τ σ Q A)) :
    Pool τ σ Q A :=
  moves.foldl (move answer) pool

theorem run_reachable {starts : τ → Prog σ Q A Unit → Prop} {answer : (query : Q) → A query}
    {moves : List (Move τ σ Q A)}
    (hstarts : ∀ t program, Move.start t program ∈ moves → starts t program) :
    ∀ pool : Pool τ σ Q A, Reachable starts pool (pool.run answer moves) := by
  induction moves with
  | nil => exact fun pool => .refl
  | cons next moves ih =>
      intro pool
      refine Relation.ReflTransGen.trans ?_ (ih
        (fun t program hmem => hstarts t program (List.mem_cons_of_mem _ hmem))
        (pool.move answer next))
      cases next with
      | turn t => exact advance_reachable starts answer pool t
      | start t program =>
          simp only [move]
          split
          · rename_i hdone
            exact .single (.start hdone (hstarts t program List.mem_cons_self))
          · exact .refl
      | crash => exact .single .crash

end Pool

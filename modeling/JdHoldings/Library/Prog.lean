import Mathlib.Tactic.TypeStar

/-!
# Programs of a thread

`Prog σ Q A ρ` is a program that works on a shared state in atomic steps, takes
and gives back one mutex, and puts questions to the outside world.  Nothing is
said here about the other threads: what they may do between two steps is the
`rely` of a `Discipline`, what the steps of the program itself may do is its
`guarantee`.

* **`wp`** is the weakest precondition of a program under a discipline.  It is
  defined by recursion on the program, and `wp_bind` splits it at every sequence
  point.
* **`Quiet`** programs only read and ask.  Under a lawful discipline a quiet
  program needs no proof beyond what the caller wants to know (`Quiet.wp`).
* **`Atoms`** says of a program that keeps the mutex where it is what each of its steps
  does to the state, and **`Every`** says it of any program whose answers are known to be
  of some kind.  **`Offers`** says which steps there are.
* **`Tame`** programs meet the discipline in whatever state they are started, and
  programs that **`Carries`** a fact keep it as well.
* **`Results`** bounds what a program can return.
* **`Runs`** is the big-step meaning of a program that runs alone, and `wp_runs`
  reads a weakest precondition off as a property of every such run.  `Among` lets the
  other threads move between its steps.  `Visits` adds the states in between, where a run
  may die, and `exec` computes one run.
-/

/-- A program with questions `Q`, answered in `A`, and results `ρ`. -/
inductive Prog (σ Q : Type) (A : Q → Type) (ρ : Type) : Type
  | done (value : ρ)
  | acquire (rest : Prog σ Q A ρ)
  | release (rest : Prog σ Q A ρ)
  | atom (update : σ → σ) (next : σ → Prog σ Q A ρ)
  | ask (query : Q) (next : A query → Prog σ Q A ρ)

namespace Prog

variable {σ Q : Type} {A : Q → Type} {α β ρ : Type}

/-- Sequencing. -/
def bind : Prog σ Q A α → (α → Prog σ Q A β) → Prog σ Q A β
  | done value, f => f value
  | acquire rest, f => acquire (rest.bind f)
  | release rest, f => release (rest.bind f)
  | atom update next, f => atom update fun state => (next state).bind f
  | ask query next, f => ask query fun answer => (next answer).bind f

@[simp] theorem bind_assoc {γ : Type} (p : Prog σ Q A α) (f : α → Prog σ Q A β)
    (g : β → Prog σ Q A γ) : (p.bind f).bind g = p.bind fun value => (f value).bind g := by
  induction p with
  | done value => rfl
  | acquire rest ih => exact congrArg acquire ih
  | release rest ih => exact congrArg release ih
  | atom update next ih => exact congrArg (atom update) (funext ih)
  | ask query next ih => exact congrArg (ask query) (funext ih)

@[simp] theorem bind_done (p : Prog σ Q A α) : p.bind done = p := by
  induction p with
  | done value => rfl
  | acquire rest ih => exact congrArg acquire ih
  | release rest ih => exact congrArg release ih
  | atom update next ih => exact congrArg (atom update) (funext ih)
  | ask query next ih => exact congrArg (ask query) (funext ih)

/-! ## Disciplines -/

/-- What a thread relies on, depending on whether it holds the mutex, what its own
steps guarantee, what holds at every step, and which answers it can get. -/
structure Discipline (σ Q : Type) (A : Q → Type) where
  rely : Bool → σ → σ → Prop
  guarantee : Bool → σ → σ → Prop
  invariant : σ → Prop
  answers : (query : Q) → A query → Prop

/-- Waiting is free, and so is a step that changes nothing. -/
structure Discipline.Lawful (D : Discipline σ Q A) : Prop where
  rely_refl : ∀ held state, D.rely held state state
  rely_trans : ∀ {held state state' state''}, D.rely held state state' →
    D.rely held state' state'' → D.rely held state state''
  guarantee_refl : ∀ held state, D.guarantee held state state

/-- The weakest precondition of `post`.  Before every step the other threads may
move. -/
def wp (D : Discipline σ Q A) (post : Bool → ρ → σ → Prop) : Prog σ Q A ρ → Bool → σ → Prop
  | done value, held, state => post held value state
  | acquire rest, held, state =>
      held = false ∧ ∀ state', D.rely false state state' → rest.wp D post true state'
  | release rest, held, state =>
      held = true ∧ ∀ state', D.rely true state state' → rest.wp D post false state'
  | atom update next, held, state =>
      ∀ state', D.rely held state state' → D.invariant state' →
        D.guarantee held state' (update state') ∧ D.invariant (update state') ∧
          (next state').wp D post held (update state')
  | ask query next, held, state =>
      ∀ answer state', D.answers query answer → D.rely held state state' →
        (next answer).wp D post held state'

section Rules

variable {D : Discipline σ Q A}

theorem wp_bind {post : Bool → β → σ → Prop} {f : α → Prog σ Q A β} (p : Prog σ Q A α) :
    ∀ {held : Bool} {state : σ}, (p.bind f).wp D post held state ↔
      p.wp D (fun held value state => (f value).wp D post held state) held state := by
  induction p with
  | done value => exact Iff.rfl
  | acquire rest ih =>
      intro held state
      simp only [bind, wp, ih]
  | release rest ih =>
      intro held state
      simp only [bind, wp, ih]
  | atom update next ih =>
      intro held state
      simp only [bind, wp, ih]
  | ask query next ih =>
      intro held state
      simp only [bind, wp, ih]

theorem wp_mono {post post' : Bool → ρ → σ → Prop} {p : Prog σ Q A ρ}
    (hpost : ∀ held value state, post held value state → post' held value state) :
    ∀ {held : Bool} {state : σ}, p.wp D post held state → p.wp D post' held state := by
  induction p with
  | done value =>
      intro held state hwp
      exact hpost _ _ _ hwp
  | acquire rest ih =>
      rintro held state ⟨hfree, hrest⟩
      exact ⟨hfree, fun state' hrely => ih (hrest state' hrely)⟩
  | release rest ih =>
      rintro held state ⟨hheld, hrest⟩
      exact ⟨hheld, fun state' hrely => ih (hrest state' hrely)⟩
  | atom update next ih =>
      intro held state hwp state' hrely hinvariant
      obtain ⟨hguarantee, hkept, hnext⟩ := hwp state' hrely hinvariant
      exact ⟨hguarantee, hkept, ih state' hnext⟩
  | ask query next ih =>
      intro held state hwp answer state' hanswer hrely
      exact ih answer (hwp answer state' hanswer hrely)

/-- The other threads cannot falsify a weakest precondition whose postcondition
they cannot falsify. -/
theorem wp_stable {post : Bool → ρ → σ → Prop} (hlawful : D.Lawful)
    (hpost : ∀ held value state state', D.rely held state state' → post held value state →
      post held value state') {p : Prog σ Q A ρ} {held : Bool} {state state' : σ}
    (hwp : p.wp D post held state) (hrely : D.rely held state state') :
    p.wp D post held state' := by
  cases p with
  | done value => exact hpost _ _ _ _ hrely hwp
  | acquire rest =>
      obtain ⟨rfl, hrest⟩ := hwp
      exact ⟨rfl, fun state'' hrely' => hrest state'' (hlawful.rely_trans hrely hrely')⟩
  | release rest =>
      obtain ⟨rfl, hrest⟩ := hwp
      exact ⟨rfl, fun state'' hrely' => hrest state'' (hlawful.rely_trans hrely hrely')⟩
  | atom update next =>
      exact fun state'' hrely' => hwp state'' (hlawful.rely_trans hrely hrely')
  | ask query next =>
      exact fun answer state'' hanswer hrely' =>
        hwp answer state'' hanswer (hlawful.rely_trans hrely hrely')

end Rules

/-! ## Quiet and tame programs -/

/-- The program only reads and asks. -/
def Quiet : Prog σ Q A ρ → Prop
  | done _ => True
  | acquire _ => False
  | release _ => False
  | atom update next => update = id ∧ ∀ state, (next state).Quiet
  | ask _ next => ∀ answer, (next answer).Quiet

theorem Quiet.bind {p : Prog σ Q A α} {f : α → Prog σ Q A β} (hp : p.Quiet)
    (hf : ∀ value, (f value).Quiet) : (p.bind f).Quiet := by
  induction p with
  | done value => exact hf value
  | acquire rest ih => exact absurd hp id
  | release rest ih => exact absurd hp id
  | atom update next ih => exact ⟨hp.1, fun state => ih state (hp.2 state)⟩
  | ask query next ih => exact fun answer => ih answer (hp answer)

/-- After a quiet program only the other threads have moved. -/
theorem Quiet.wp {D : Discipline σ Q A} (hlawful : D.Lawful) {post : Bool → ρ → σ → Prop}
    {p : Prog σ Q A ρ} (hquiet : p.Quiet) :
    ∀ {held : Bool} {state : σ},
      (∀ value state', D.rely held state state' → post held value state') →
        p.wp D post held state := by
  induction p with
  | done value =>
      intro held state hpost
      exact hpost value state (hlawful.rely_refl held state)
  | acquire rest ih => exact absurd hquiet id
  | release rest ih => exact absurd hquiet id
  | atom update next ih =>
      obtain ⟨rfl, hnext⟩ := hquiet
      intro held state hpost state' hrely hinvariant
      refine ⟨hlawful.guarantee_refl held state', hinvariant, ih state' (hnext state') ?_⟩
      exact fun value state'' hrely' => hpost value state'' (hlawful.rely_trans hrely hrely')
  | ask query next ih =>
      intro held state hpost answer state' _ hrely
      refine ih answer (hquiet answer) ?_
      exact fun value state'' hrely' => hpost value state'' (hlawful.rely_trans hrely hrely')

/-- The program keeps the mutex where it is, and all its steps are of the kind `P`. -/
def Atoms (P : (σ → σ) → Prop) : Prog σ Q A ρ → Prop
  | done _ => True
  | acquire _ => False
  | release _ => False
  | atom update next => P update ∧ ∀ state, (next state).Atoms P
  | ask _ next => ∀ answer, (next answer).Atoms P

theorem Atoms.bind {P : (σ → σ) → Prop} {p : Prog σ Q A α} {f : α → Prog σ Q A β}
    (hp : p.Atoms P) (hf : ∀ value, (f value).Atoms P) : (p.bind f).Atoms P := by
  induction p with
  | done value => exact hf value
  | acquire rest ih => exact absurd hp id
  | release rest ih => exact absurd hp id
  | atom update next ih => exact ⟨hp.1, fun state => ih state (hp.2 state)⟩
  | ask query next ih => exact fun answer => ih answer (hp answer)

theorem Atoms.mono {P P' : (σ → σ) → Prop} {p : Prog σ Q A ρ} (hp : p.Atoms P)
    (hmono : ∀ update, P update → P' update) : p.Atoms P' := by
  induction p with
  | done value => trivial
  | acquire rest ih => exact hp
  | release rest ih => exact hp
  | atom update next ih => exact ⟨hmono update hp.1, fun state => ih state (hp.2 state)⟩
  | ask query next ih => exact fun answer => ih answer (hp answer)

theorem Quiet.atoms {P : (σ → σ) → Prop} (hid : P id) {p : Prog σ Q A ρ} (hquiet : p.Quiet) :
    p.Atoms P := by
  induction p with
  | done value => trivial
  | acquire rest ih => exact hquiet
  | release rest ih => exact hquiet
  | atom update next ih =>
      obtain ⟨rfl, hnext⟩ := hquiet
      exact ⟨hid, fun state => ih state (hnext state)⟩
  | ask query next ih => exact fun answer => ih answer (hquiet answer)

/-- Where the answers are as said, all steps of the program are of the kind `P` and its
result is of the kind `R`, whatever it does with the mutex. -/
def Every (answers : (query : Q) → A query → Prop) (P : (σ → σ) → Prop) (R : ρ → Prop) :
    Prog σ Q A ρ → Prop
  | done value => R value
  | acquire rest => rest.Every answers P R
  | release rest => rest.Every answers P R
  | atom update next => P update ∧ ∀ state, (next state).Every answers P R
  | ask query next => ∀ answer, answers query answer → (next answer).Every answers P R

section Every

variable {answers : (query : Q) → A query → Prop} {P : (σ → σ) → Prop}

theorem Every.bind {R : α → Prop} {R' : β → Prop} {p : Prog σ Q A α} {f : α → Prog σ Q A β}
    (hp : p.Every answers P R) (hf : ∀ value, R value → (f value).Every answers P R') :
    (p.bind f).Every answers P R' := by
  induction p with
  | done value => exact hf value hp
  | acquire rest ih => exact ih hp
  | release rest ih => exact ih hp
  | atom update next ih => exact ⟨hp.1, fun state => ih state (hp.2 state)⟩
  | ask query next ih => exact fun answer hanswer => ih answer (hp answer hanswer)

theorem Every.mono {R R' : ρ → Prop} {p : Prog σ Q A ρ} (hp : p.Every answers P R)
    (hR : ∀ value, R value → R' value) : p.Every answers P R' := by
  induction p with
  | done value => exact hR value hp
  | acquire rest ih => exact ih hp
  | release rest ih => exact ih hp
  | atom update next ih => exact ⟨hp.1, fun state => ih state (hp.2 state)⟩
  | ask query next ih => exact fun answer hanswer => ih answer (hp answer hanswer)

theorem Atoms.every {p : Prog σ Q A ρ} (hp : p.Atoms P) :
    p.Every answers P fun _ => True := by
  induction p with
  | done value => trivial
  | acquire rest ih => exact absurd hp id
  | release rest ih => exact absurd hp id
  | atom update next ih => exact ⟨hp.1, fun state => ih state (hp.2 state)⟩
  | ask query next ih => exact fun answer _ => ih answer (hp answer)

/-- The program can come to the step `update`, where the answers are as said. -/
def Offers (answers : (query : Q) → A query → Prop) (update : σ → σ) : Prog σ Q A ρ → Prop
  | done _ => False
  | acquire rest => rest.Offers answers update
  | release rest => rest.Offers answers update
  | atom first next => first = update ∨ ∃ state, (next state).Offers answers update
  | ask query next => ∃ answer, answers query answer ∧ (next answer).Offers answers update

theorem Every.of_offers {R : ρ → Prop} {p : Prog σ Q A ρ} {update : σ → σ}
    (hp : p.Every answers P R) (hoffers : p.Offers answers update) : P update := by
  induction p with
  | done value => exact absurd hoffers id
  | acquire rest ih => exact ih hp hoffers
  | release rest ih => exact ih hp hoffers
  | atom first next ih =>
      rcases hoffers with rfl | ⟨state, hoffers⟩
      · exact hp.1
      · exact ih state (hp.2 state) hoffers
  | ask query next ih =>
      obtain ⟨answer, hanswer, hoffers⟩ := hoffers
      exact ih answer (hp answer hanswer) hoffers

end Every

/-- Every step of the program meets the guarantee and keeps the invariant, in
whatever state it is taken, and the mutex stays where it is. -/
def Tame (D : Discipline σ Q A) (held : Bool) : Prog σ Q A ρ → Prop
  | done _ => True
  | acquire _ => False
  | release _ => False
  | atom update next => (∀ state, D.invariant state →
      D.guarantee held state (update state) ∧ D.invariant (update state)) ∧
        ∀ state, (next state).Tame D held
  | ask _ next => ∀ answer, (next answer).Tame D held

theorem Tame.bind {D : Discipline σ Q A} {held : Bool} {p : Prog σ Q A α}
    {f : α → Prog σ Q A β} (hp : p.Tame D held) (hf : ∀ value, (f value).Tame D held) :
    (p.bind f).Tame D held := by
  induction p with
  | done value => exact hf value
  | acquire rest ih => exact absurd hp id
  | release rest ih => exact absurd hp id
  | atom update next ih => exact ⟨hp.1, fun state => ih state (hp.2 state)⟩
  | ask query next ih => exact fun answer => ih answer (hp answer)

/-- A tame program may be run anywhere, when nothing is to be known afterwards. -/
theorem Tame.wp {D : Discipline σ Q A} {post : Bool → ρ → σ → Prop} {held : Bool}
    {p : Prog σ Q A ρ} (htame : p.Tame D held) (hpost : ∀ value state, post held value state) :
    ∀ {state : σ}, p.wp D post held state := by
  induction p with
  | done value => exact fun {state} => hpost value state
  | acquire rest ih => exact absurd htame id
  | release rest ih => exact absurd htame id
  | atom update next ih =>
      intro state state' _ hinvariant
      obtain ⟨hguarantee, hkept⟩ := htame.1 state' hinvariant
      exact ⟨hguarantee, hkept, ih state' (htame.2 state')⟩
  | ask query next ih => exact fun {state} answer state' _ _ => ih answer (htame answer)

/-- Like a tame program, and every step carries a fact `J` along. -/
def Carries (D : Discipline σ Q A) (J : σ → Prop) (held : Bool) : Prog σ Q A ρ → Prop
  | done _ => True
  | acquire _ => False
  | release _ => False
  | atom update next => (∀ state, D.invariant state → J state →
      D.guarantee held state (update state) ∧ D.invariant (update state) ∧ J (update state)) ∧
        ∀ state, (next state).Carries D J held
  | ask _ next => ∀ answer, (next answer).Carries D J held

theorem Carries.bind {D : Discipline σ Q A} {J : σ → Prop} {held : Bool} {p : Prog σ Q A α}
    {f : α → Prog σ Q A β} (hp : p.Carries D J held) (hf : ∀ value, (f value).Carries D J held) :
    (p.bind f).Carries D J held := by
  induction p with
  | done value => exact hf value
  | acquire rest ih => exact absurd hp id
  | release rest ih => exact absurd hp id
  | atom update next ih => exact ⟨hp.1, fun state => ih state (hp.2 state)⟩
  | ask query next ih => exact fun answer => ih answer (hp answer)

/-- A fact that neither the program nor the others can falsify still holds at its end. -/
theorem Carries.wp {D : Discipline σ Q A} {J : σ → Prop} {post : Bool → ρ → σ → Prop} {held : Bool}
    {p : Prog σ Q A ρ} (hcarries : p.Carries D J held)
    (hstable : ∀ state state', D.rely held state state' → J state → J state')
    (hpost : ∀ value state, J state → post held value state) :
    ∀ {state : σ}, J state → p.wp D post held state := by
  induction p with
  | done value =>
      intro state hstate
      exact hpost value state hstate
  | acquire rest ih => exact absurd hcarries id
  | release rest ih => exact absurd hcarries id
  | atom update next ih =>
      intro state hstate state' hrely hinvariant
      obtain ⟨hguarantee, hkept, hcarried⟩ :=
        hcarries.1 state' hinvariant (hstable state state' hrely hstate)
      exact ⟨hguarantee, hkept, ih state' (hcarries.2 state') hcarried⟩
  | ask query next ih =>
      intro state hstate answer state' _ hrely
      exact ih answer (hcarries answer) (hstable state state' hrely hstate)

theorem Quiet.carries {D : Discipline σ Q A} (hlawful : D.Lawful) (J : σ → Prop) (held : Bool)
    {p : Prog σ Q A ρ} (hquiet : p.Quiet) : p.Carries D J held := by
  induction p with
  | done value => trivial
  | acquire rest ih => exact hquiet
  | release rest ih => exact hquiet
  | atom update next ih =>
      obtain ⟨rfl, hnext⟩ := hquiet
      refine ⟨?_, fun state => ih state (hnext state)⟩
      intro state hinvariant hstate
      exact ⟨hlawful.guarantee_refl held state, hinvariant, hstate⟩
  | ask query next ih => exact fun answer => ih answer (hquiet answer)

/-- A program whose steps are of a kind that carries the fact along. -/
theorem Atoms.carries {D : Discipline σ Q A} {J : σ → Prop} {held : Bool} {P : (σ → σ) → Prop}
    (hstep : ∀ update, P update → ∀ state, D.invariant state → J state →
      D.guarantee held state (update state) ∧ D.invariant (update state) ∧ J (update state))
    {p : Prog σ Q A ρ} (hp : p.Atoms P) : p.Carries D J held := by
  induction p with
  | done value => trivial
  | acquire rest ih => exact hp
  | release rest ih => exact hp
  | atom update next ih => exact ⟨hstep update hp.1, fun state => ih state (hp.2 state)⟩
  | ask query next ih => exact fun answer => ih answer (hp answer)

theorem Carries.tame {D : Discipline σ Q A} {held : Bool} {p : Prog σ Q A ρ}
    (hcarries : p.Carries D (fun _ => True) held) : p.Tame D held := by
  induction p with
  | done value => trivial
  | acquire rest ih => exact hcarries
  | release rest ih => exact hcarries
  | atom update next ih =>
      refine ⟨?_, fun state => ih state (hcarries.2 state)⟩
      intro state hinvariant
      obtain ⟨hguarantee, hkept, -⟩ := hcarries.1 state hinvariant trivial
      exact ⟨hguarantee, hkept⟩
  | ask query next ih => exact fun answer => ih answer (hcarries answer)

theorem Quiet.tame {D : Discipline σ Q A} (hlawful : D.Lawful) (held : Bool) {p : Prog σ Q A ρ}
    (hquiet : p.Quiet) : p.Tame D held := by
  induction p with
  | done value => trivial
  | acquire rest ih => exact hquiet
  | release rest ih => exact hquiet
  | atom update next ih =>
      obtain ⟨rfl, hnext⟩ := hquiet
      exact ⟨fun state hinvariant => ⟨hlawful.guarantee_refl held state, hinvariant⟩,
        fun state => ih state (hnext state)⟩
  | ask query next ih => exact fun answer => ih answer (hquiet answer)

/-! ## Possible results -/

/-- Whatever the program finds and is told, its result is of the kind `R`. -/
def Results (R : ρ → Prop) : Prog σ Q A ρ → Prop
  | done value => R value
  | acquire rest => rest.Results R
  | release rest => rest.Results R
  | atom _ next => ∀ state, (next state).Results R
  | ask _ next => ∀ answer, (next answer).Results R

theorem Results.bind {R : α → Prop} {R' : β → Prop} {p : Prog σ Q A α} {f : α → Prog σ Q A β}
    (hp : p.Results R) (hf : ∀ value, R value → (f value).Results R') :
    (p.bind f).Results R' := by
  induction p with
  | done value => exact hf value hp
  | acquire rest ih => exact ih hp
  | release rest ih => exact ih hp
  | atom update next ih => exact fun state => ih state (hp state)
  | ask query next ih => exact fun answer => ih answer (hp answer)

/-- A weakest precondition has to speak of the possible results alone. -/
theorem Results.wp {D : Discipline σ Q A} {R : ρ → Prop} {post : Bool → ρ → σ → Prop}
    {p : Prog σ Q A ρ} (hp : p.Results R) :
    ∀ {held : Bool} {state : σ},
      p.wp D (fun held value state => R value → post held value state) held state →
        p.wp D post held state := by
  induction p with
  | done value => exact fun hwp => hwp hp
  | acquire rest ih => exact fun hwp => ⟨hwp.1, fun state' hrely => ih hp (hwp.2 state' hrely)⟩
  | release rest ih => exact fun hwp => ⟨hwp.1, fun state' hrely => ih hp (hwp.2 state' hrely)⟩
  | atom update next ih =>
      intro held state hwp state' hrely hinvariant
      obtain ⟨hguarantee, hkept, hnext⟩ := hwp state' hrely hinvariant
      exact ⟨hguarantee, hkept, ih state' (hp state') hnext⟩
  | ask query next ih =>
      intro held state hwp answer state' hanswer hrely
      exact ih answer (hp answer) (hwp answer state' hanswer hrely)

/-! ## Running alone -/

/-- A run of the program alone, from one state to another, with its result. -/
def Runs (answers : (query : Q) → A query → Prop) : Prog σ Q A ρ → σ → σ → ρ → Prop
  | done value, state, state', result => state' = state ∧ result = value
  | acquire rest, state, state', result => rest.Runs answers state state' result
  | release rest, state, state', result => rest.Runs answers state state' result
  | atom update next, state, state', result =>
      (next state).Runs answers (update state) state' result
  | ask query next, state, state', result =>
      ∃ answer, answers query answer ∧ (next answer).Runs answers state state' result

/-- The discipline of a program that runs alone. -/
def alone (answers : (query : Q) → A query → Prop) : Discipline σ Q A where
  rely := fun _ state state' => state' = state
  guarantee := fun _ _ _ => True
  invariant := fun _ => True
  answers := answers

theorem alone_lawful (answers : (query : Q) → A query → Prop) :
    (alone answers : Discipline σ Q A).Lawful where
  rely_refl := fun _ _ => rfl
  rely_trans := fun hfirst hsecond => hsecond.trans hfirst
  guarantee_refl := fun _ _ => trivial

/-- A weakest precondition holds of every run alone. -/
theorem wp_runs {answers : (query : Q) → A query → Prop} {post : Bool → ρ → σ → Prop}
    {p : Prog σ Q A ρ} :
    ∀ {held : Bool} {state state' : σ} {result : ρ}, p.wp (alone answers) post held state →
      p.Runs answers state state' result → ∃ held', post held' result state' := by
  induction p with
  | done value =>
      rintro held state state' result hwp ⟨rfl, rfl⟩
      exact ⟨held, hwp⟩
  | acquire rest ih =>
      rintro held state state' result ⟨-, hrest⟩ hrun
      exact ih (hrest state rfl) hrun
  | release rest ih =>
      rintro held state state' result ⟨-, hrest⟩ hrun
      exact ih (hrest state rfl) hrun
  | atom update next ih =>
      intro held state state' result hwp hrun
      exact ih state (hwp state rfl trivial).2.2 hrun
  | ask query next ih =>
      rintro held state state' result hwp ⟨answer, hanswer, hrun⟩
      exact ih answer (hwp answer state hanswer rfl) hrun

/-! ## Running among others -/

/-- A run of the program from one state to another, while the others move as `rely` says. -/
def Among (rely : Bool → σ → σ → Prop) (answers : (query : Q) → A query → Prop) :
    Prog σ Q A ρ → Bool → σ → σ → ρ → Prop
  | done value, _, state, state', result => state' = state ∧ result = value
  | acquire rest, _, state, state', result =>
      ∃ middle, rely false state middle ∧ rest.Among rely answers true middle state' result
  | release rest, _, state, state', result =>
      ∃ middle, rely true state middle ∧ rest.Among rely answers false middle state' result
  | atom update next, held, state, state', result =>
      ∃ middle, rely held state middle ∧
        (next middle).Among rely answers held (update middle) state' result
  | ask query next, held, state, state', result =>
      ∃ answer middle, answers query answer ∧ rely held state middle ∧
        (next answer).Among rely answers held middle state' result

/-- A weakest precondition holds of every run among others, where the invariant is void. -/
theorem wp_among {D : Discipline σ Q A} (hinvariant : ∀ state, D.invariant state)
    {post : Bool → ρ → σ → Prop} {p : Prog σ Q A ρ} :
    ∀ {held : Bool} {state state' : σ} {result : ρ}, p.wp D post held state →
      p.Among D.rely D.answers held state state' result → ∃ held', post held' result state' := by
  induction p with
  | done value =>
      rintro held state state' result hwp ⟨rfl, rfl⟩
      exact ⟨held, hwp⟩
  | acquire rest ih =>
      rintro held state state' result ⟨-, hrest⟩ ⟨middle, hrely, hrun⟩
      exact ih (hrest middle hrely) hrun
  | release rest ih =>
      rintro held state state' result ⟨-, hrest⟩ ⟨middle, hrely, hrun⟩
      exact ih (hrest middle hrely) hrun
  | atom update next ih =>
      rintro held state state' result hwp ⟨middle, hrely, hrun⟩
      exact ih middle (hwp middle hrely (hinvariant middle)).2.2 hrun
  | ask query next ih =>
      rintro held state state' result hwp ⟨answer, middle, hanswer, hrely, hrun⟩
      exact ih answer (hwp answer middle hanswer hrely) hrun

/-- What a program computes from its result does not show in its runs. -/
theorem among_map {rely : Bool → σ → σ → Prop} {answers : (query : Q) → A query → Prop}
    {f : α → β} {p : Prog σ Q A α} :
    ∀ {held : Bool} {state state' : σ} {result : β},
      (p.bind fun value => done (f value)).Among rely answers held state state' result ↔
        ∃ value, p.Among rely answers held state state' value ∧ result = f value := by
  induction p with
  | done value =>
      intro held state state' result
      constructor
      · rintro ⟨rfl, rfl⟩
        exact ⟨value, ⟨rfl, rfl⟩, rfl⟩
      · rintro ⟨_, ⟨rfl, rfl⟩, rfl⟩
        exact ⟨rfl, rfl⟩
  | acquire rest ih =>
      intro held state state' result
      simp only [bind, Among, ih]
      constructor
      · rintro ⟨middle, hrely, value, hrun, hvalue⟩
        exact ⟨value, ⟨middle, hrely, hrun⟩, hvalue⟩
      · rintro ⟨value, ⟨middle, hrely, hrun⟩, hvalue⟩
        exact ⟨middle, hrely, value, hrun, hvalue⟩
  | release rest ih =>
      intro held state state' result
      simp only [bind, Among, ih]
      constructor
      · rintro ⟨middle, hrely, value, hrun, hvalue⟩
        exact ⟨value, ⟨middle, hrely, hrun⟩, hvalue⟩
      · rintro ⟨value, ⟨middle, hrely, hrun⟩, hvalue⟩
        exact ⟨middle, hrely, value, hrun, hvalue⟩
  | atom update next ih =>
      intro held state state' result
      simp only [bind, Among, ih]
      constructor
      · rintro ⟨middle, hrely, value, hrun, hvalue⟩
        exact ⟨value, ⟨middle, hrely, hrun⟩, hvalue⟩
      · rintro ⟨value, ⟨middle, hrely, hrun⟩, hvalue⟩
        exact ⟨middle, hrely, value, hrun, hvalue⟩
  | ask query next ih =>
      intro held state state' result
      simp only [bind, Among, ih]
      constructor
      · rintro ⟨answer, middle, hanswer, hrely, value, hrun, hvalue⟩
        exact ⟨value, ⟨answer, middle, hanswer, hrely, hrun⟩, hvalue⟩
      · rintro ⟨value, ⟨answer, middle, hanswer, hrely, hrun⟩, hvalue⟩
        exact ⟨answer, middle, hanswer, hrely, value, hrun, hvalue⟩

/-- A run alone is a run among others that stand still. -/
theorem Runs.among {rely : Bool → σ → σ → Prop} {answers : (query : Q) → A query → Prop}
    (hrely : ∀ held state, rely held state state) {p : Prog σ Q A ρ} :
    ∀ {held : Bool} {state state' : σ} {result : ρ}, p.Runs answers state state' result →
      p.Among rely answers held state state' result := by
  induction p with
  | done value => exact fun hrun => hrun
  | acquire rest ih => exact fun hrun => ⟨_, hrely _ _, ih hrun⟩
  | release rest ih => exact fun hrun => ⟨_, hrely _ _, ih hrun⟩
  | atom update next ih => exact fun hrun => ⟨_, hrely _ _, ih _ hrun⟩
  | ask query next ih =>
      rintro held state state' result ⟨answer, hanswer, hrun⟩
      exact ⟨answer, _, hanswer, hrely _ _, ih answer hrun⟩

/-! ## Dying on the way -/

/-- A state the program alone passes through, from its first one to its last. -/
def Visits (answers : (query : Q) → A query → Prop) : Prog σ Q A ρ → σ → σ → Prop
  | done _, state, state' => state' = state
  | acquire rest, state, state' => rest.Visits answers state state'
  | release rest, state, state' => rest.Visits answers state state'
  | atom update next, state, state' =>
      state' = state ∨ (next state).Visits answers (update state) state'
  | ask query next, state, state' =>
      ∃ answer, answers query answer ∧ (next answer).Visits answers state state'

/-- What every step carries along holds wherever the program dies. -/
theorem Carries.visits {answers : (query : Q) → A query → Prop} {J : σ → Prop} {held : Bool}
    {p : Prog σ Q A ρ} :
    ∀ {state state' : σ}, p.Carries (alone answers) J held → J state →
      p.Visits answers state state' → J state' := by
  induction p with
  | done value =>
      rintro state state' - hstate rfl
      exact hstate
  | acquire rest ih => exact fun hcarries => absurd hcarries id
  | release rest ih => exact fun hcarries => absurd hcarries id
  | atom update next ih =>
      rintro state state' hcarries hstate (rfl | hvisits)
      · exact hstate
      · obtain ⟨-, -, hcarried⟩ := hcarries.1 state trivial hstate
        exact ih state (hcarries.2 state) hcarried hvisits
  | ask query next ih =>
      rintro state state' hcarries hstate ⟨answer, -, hvisits⟩
      exact ih answer (hcarries answer) hstate hvisits

/-- The run in which the outside world gives the answers `answer`. -/
def exec (answer : (query : Q) → A query) : Prog σ Q A ρ → σ → σ × ρ
  | done value, state => (state, value)
  | acquire rest, state => rest.exec answer state
  | release rest, state => rest.exec answer state
  | atom update next, state => (next state).exec answer (update state)
  | ask query next, state => (next (answer query)).exec answer state

theorem exec_runs {answers : (query : Q) → A query → Prop} {answer : (query : Q) → A query}
    (hanswers : ∀ query, answers query (answer query)) (p : Prog σ Q A ρ) :
    ∀ state : σ, p.Runs answers state (p.exec answer state).1 (p.exec answer state).2 := by
  induction p with
  | done value => exact fun state => ⟨rfl, rfl⟩
  | acquire rest ih => exact fun state => ih state
  | release rest ih => exact fun state => ih state
  | atom update next ih => exact fun state => ih state (update state)
  | ask query next ih => exact fun state => ⟨answer query, hanswers query, ih _ state⟩

end Prog

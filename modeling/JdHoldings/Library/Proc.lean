import JdHoldings.Library.Prog

/-!
# Programs that may raise

`Proc` is the monad of programs that return a value or raise an exception.  Its
weakest precondition has a postcondition for either end, so that sequencing
hands on the second one and an exception handler the first.
-/

/-- A program that returns a value or raises. -/
def Proc (σ Q : Type) (A : Q → Type) (ε α : Type) : Type := Prog σ Q A (Except ε α)

namespace Proc

variable {σ Q : Type} {A : Q → Type} {ε α β : Type}

def pure (value : α) : Proc σ Q A ε α := Prog.done (.ok value)

def raise (error : ε) : Proc σ Q A ε α := Prog.done (.error error)

def bind (p : Proc σ Q A ε α) (f : α → Proc σ Q A ε β) : Proc σ Q A ε β :=
  Prog.bind p fun
    | .ok value => f value
    | .error error => Prog.done (.error error)

def tryCatch (p : Proc σ Q A ε α) (handler : ε → Proc σ Q A ε α) : Proc σ Q A ε α :=
  Prog.bind p fun
    | .ok value => Prog.done (.ok value)
    | .error error => handler error

instance : Monad (Proc σ Q A ε) where
  pure := Proc.pure
  bind := Proc.bind

instance : MonadExceptOf ε (Proc σ Q A ε) where
  throw := Proc.raise
  tryCatch := Proc.tryCatch

/-- A computed value or exception. -/
def ofExcept (result : Except ε α) : Proc σ Q A ε α := Prog.done result

/-- A read of the shared state. -/
def read (f : σ → α) : Proc σ Q A ε α := Prog.atom id fun state => Prog.done (.ok (f state))

/-- A write that cannot fail. -/
def modify (f : σ → σ) : Proc σ Q A ε Unit := Prog.atom f fun _ => Prog.done (.ok ())

/-- The state a transaction leaves. -/
def committed (f : σ → Except ε (σ × α)) (state : σ) : σ :=
  match f state with
  | .ok result => result.1
  | .error _ => state

/-- A transaction: it commits a state and a value, or raises and leaves no trace. -/
def transaction (f : σ → Except ε (σ × α)) : Proc σ Q A ε α :=
  Prog.atom (committed f) fun state => Prog.done ((f state).map Prod.snd)

theorem committed_ok {f : σ → Except ε (σ × α)} {state : σ} {result : σ × α}
    (hf : f state = .ok result) : committed f state = result.1 := by
  rw [committed, hf]

theorem committed_error {f : σ → Except ε (σ × α)} {state : σ} {error : ε}
    (hf : f state = .error error) : committed f state = state := by
  rw [committed, hf]

def ask (query : Q) : Proc σ Q A ε (A query) := Prog.ask query fun answer => Prog.done (.ok answer)

/-- `if bad: raise error`. -/
def raiseIf (bad : Prop) [Decidable bad] (error : ε) : Proc σ Q A ε Unit :=
  if bad then raise error else pure ()

/-- `if c: p`. -/
def when (c : Prop) [Decidable c] (p : Proc σ Q A ε Unit) : Proc σ Q A ε Unit :=
  if c then p else pure ()

/-- `with lock:`, which gives the mutex back on an exception as well. -/
def withLock (p : Proc σ Q A ε α) : Proc σ Q A ε α :=
  Prog.acquire (Prog.bind p fun result => Prog.release (Prog.done result))

theorem bind_assoc {γ : Type} (p : Proc σ Q A ε α) (f : α → Proc σ Q A ε β)
    (g : β → Proc σ Q A ε γ) : (p >>= f) >>= g = p >>= fun value => f value >>= g := by
  refine (Prog.bind_assoc p _ _).trans (congrArg (Prog.bind p) (funext fun result => ?_))
  cases result with
  | error error => rfl
  | ok value => rfl

theorem bind_pure (p : Proc σ Q A ε α) : (p >>= fun value => Pure.pure value) = p := by
  refine Eq.trans (congrArg (Prog.bind p) (funext fun result => ?_)) (Prog.bind_done p)
  cases result with
  | error error => rfl
  | ok value => rfl

/-! ## Weakest preconditions -/

/-- The weakest precondition of `ok` for a value and `err` for an exception. -/
def wp (D : Prog.Discipline σ Q A) (ok : Bool → α → σ → Prop) (err : Bool → ε → σ → Prop)
    (p : Proc σ Q A ε α) (held : Bool) (state : σ) : Prop :=
  Prog.wp D (fun held result state => match result with
    | .ok value => ok held value state
    | .error error => err held error state) p held state

section Rules

variable {D : Prog.Discipline σ Q A} {ok : Bool → α → σ → Prop} {err : Bool → ε → σ → Prop}
  {held : Bool} {state : σ}

@[simp] theorem wp_pure (value : α) :
    wp D ok err (Pure.pure value : Proc σ Q A ε α) held state ↔ ok held value state := Iff.rfl

@[simp] theorem wp_throw (error : ε) :
    wp D ok err (throw error : Proc σ Q A ε α) held state ↔ err held error state := Iff.rfl

@[simp] theorem wp_ofExcept_ok (value : α) :
    wp D ok err (ofExcept (.ok value) : Proc σ Q A ε α) held state ↔ ok held value state := Iff.rfl

@[simp] theorem wp_ofExcept_error (error : ε) :
    wp D ok err (ofExcept (.error error) : Proc σ Q A ε α) held state ↔ err held error state :=
  Iff.rfl

theorem wp_raiseIf {ok : Bool → Unit → σ → Prop} {bad : Prop} [Decidable bad] {error : ε}
    (hok : ¬bad → ok held () state) (herr : bad → err held error state) :
    wp D ok err (raiseIf bad error : Proc σ Q A ε Unit) held state := by
  unfold raiseIf
  split
  · exact herr ‹_›
  · exact hok ‹_›

theorem wp_bind {ok : Bool → β → σ → Prop} {p : Proc σ Q A ε α} {f : α → Proc σ Q A ε β} :
    wp D ok err (p >>= f) held state ↔
      wp D (fun held value state => wp D ok err (f value) held state) err p held state := by
  refine (Prog.wp_bind p).trans ⟨Prog.wp_mono ?_, Prog.wp_mono ?_⟩
  · rintro held (error | value) state hpost <;> exact hpost
  · rintro held (error | value) state hpost <;> exact hpost

theorem wp_tryCatch {p : Proc σ Q A ε α} {handler : ε → Proc σ Q A ε α} :
    wp D ok err (tryCatchThe ε p handler) held state ↔
      wp D ok (fun held error state => wp D ok err (handler error) held state) p held state := by
  refine (Prog.wp_bind p).trans ⟨Prog.wp_mono ?_, Prog.wp_mono ?_⟩
  · rintro held (error | value) state hpost <;> exact hpost
  · rintro held (error | value) state hpost <;> exact hpost

theorem wp_mono {ok' : Bool → α → σ → Prop} {err' : Bool → ε → σ → Prop} {p : Proc σ Q A ε α}
    (hwp : wp D ok err p held state)
    (hok : ∀ held value state, ok held value state → ok' held value state)
    (herr : ∀ held error state, err held error state → err' held error state) :
    wp D ok' err' p held state := by
  refine Prog.wp_mono ?_ hwp
  rintro held (error | value) state hpost
  · exact herr held error state hpost
  · exact hok held value state hpost

/-- One postcondition for both ends. -/
theorem wp_either {post : Bool → Except ε α → σ → Prop} {p : Proc σ Q A ε α}
    (hwp : wp D (fun held value state => post held (.ok value) state)
      (fun held error state => post held (.error error) state) p held state) :
    Prog.wp D post p held state := by
  refine Prog.wp_mono ?_ hwp
  rintro held (error | value) state hpost <;> exact hpost

theorem wp_read (hlawful : D.Lawful) {f : σ → α}
    (hok : ∀ state', D.rely held state state' → D.invariant state' → ok held (f state') state') :
    wp D ok err (read f : Proc σ Q A ε α) held state :=
  fun state' hrely hinvariant =>
    ⟨hlawful.guarantee_refl held state', hinvariant, hok state' hrely hinvariant⟩

theorem wp_modify {ok : Bool → Unit → σ → Prop} {f : σ → σ}
    (hstep : ∀ state', D.rely held state state' → D.invariant state' →
      D.guarantee held state' (f state') ∧ D.invariant (f state') ∧ ok held () (f state')) :
    wp D ok err (modify f : Proc σ Q A ε Unit) held state := hstep

theorem wp_transaction (hlawful : D.Lawful) {f : σ → Except ε (σ × α)}
    (hcommit : ∀ state' state'' value, D.rely held state state' → D.invariant state' →
      f state' = .ok (state'', value) →
        D.guarantee held state' state'' ∧ D.invariant state'' ∧ ok held value state'')
    (habort : ∀ state' error, D.rely held state state' → f state' = .error error →
      err held error state') :
    wp D ok err (transaction f : Proc σ Q A ε α) held state := by
  intro state' hrely hinvariant
  cases hf : f state' with
  | error error =>
      rw [committed_error hf]
      refine ⟨hlawful.guarantee_refl held state', hinvariant, ?_⟩
      simp only [hf]
      exact habort state' error hrely hf
  | ok result =>
      rw [committed_ok hf]
      obtain ⟨hguarantee, hkept, hpost⟩ := hcommit state' result.1 result.2 hrely hinvariant hf
      refine ⟨hguarantee, hkept, ?_⟩
      simp only [hf]
      exact hpost

theorem wp_ask {query : Q} {ok : Bool → A query → σ → Prop}
    (hok : ∀ answer state', D.answers query answer → D.rely held state state' →
      ok held answer state') :
    wp D ok err (ask query : Proc σ Q A ε (A query)) held state := hok

/-- The body of `with lock:` starts with the mutex and ends with it. -/
theorem wp_withLock {p : Proc σ Q A ε α}
    (hbody : ∀ state', D.rely false state state' →
      wp D (fun held value state => held = true ∧
          ∀ state', D.rely true state state' → ok false value state')
        (fun held error state => held = true ∧
          ∀ state', D.rely true state state' → err false error state') p true state') :
    wp D ok err (withLock p) false state := by
  refine ⟨rfl, fun state' hrely => (Prog.wp_bind p).mpr (Prog.wp_mono ?_ (hbody state' hrely))⟩
  rintro held (error | value) state hpost <;> exact hpost

end Rules

/-! ## Quiet and tame programs -/

/-- The program only reads and asks. -/
def Quiet (p : Proc σ Q A ε α) : Prop := Prog.Quiet p

namespace Quiet

@[simp] theorem pure (value : α) : Quiet (Pure.pure value : Proc σ Q A ε α) := trivial

@[simp] theorem raise (error : ε) : Quiet (throw error : Proc σ Q A ε α) := trivial

@[simp] theorem ofExcept (result : Except ε α) :
    Quiet (Proc.ofExcept result : Proc σ Q A ε α) := trivial

@[simp] theorem read (f : σ → α) : Quiet (Proc.read f : Proc σ Q A ε α) := ⟨rfl, fun _ => trivial⟩

@[simp] theorem ask (query : Q) : Quiet (Proc.ask query : Proc σ Q A ε (A query)) :=
  fun _ => trivial

@[simp] theorem raiseIf (bad : Prop) [Decidable bad] (error : ε) :
    Quiet (Proc.raiseIf bad error : Proc σ Q A ε Unit) := by
  unfold Proc.raiseIf
  split <;> trivial

theorem bind {p : Proc σ Q A ε α} {f : α → Proc σ Q A ε β} (hp : Quiet p)
    (hf : ∀ value, Quiet (f value)) : Quiet (p >>= f) := by
  refine Prog.Quiet.bind hp ?_
  rintro (error | value)
  · trivial
  · exact hf value

theorem ite {c : Prop} [Decidable c] {p q : Proc σ Q A ε α} (hp : c → Quiet p)
    (hq : ¬c → Quiet q) : Quiet (if c then p else q) := by
  split
  · exact hp ‹_›
  · exact hq ‹_›

theorem tryCatch {p : Proc σ Q A ε α} {handler : ε → Proc σ Q A ε α} (hp : Quiet p)
    (hhandler : ∀ error, Quiet (handler error)) : Quiet (tryCatchThe ε p handler) := by
  refine Prog.Quiet.bind hp ?_
  rintro (error | value)
  · exact hhandler error
  · trivial

/-- After a quiet program only the other threads have moved. -/
theorem wp {D : Prog.Discipline σ Q A} (hlawful : D.Lawful) {ok : Bool → α → σ → Prop}
    {err : Bool → ε → σ → Prop} {p : Proc σ Q A ε α} {held : Bool} {state : σ} (hquiet : Quiet p)
    (hok : ∀ value state', D.rely held state state' → ok held value state')
    (herr : ∀ error state', D.rely held state state' → err held error state') :
    Proc.wp D ok err p held state := by
  refine Prog.Quiet.wp hlawful hquiet ?_
  rintro (error | value) state' hrely
  · exact herr error state' hrely
  · exact hok value state' hrely

end Quiet

/-- Every step of the program meets the guarantee, in whatever state it is taken. -/
def Tame (D : Prog.Discipline σ Q A) (held : Bool) (p : Proc σ Q A ε α) : Prop :=
  Prog.Tame D held p

namespace Tame

variable {D : Prog.Discipline σ Q A} {held : Bool}

theorem of_quiet (hlawful : D.Lawful) {p : Proc σ Q A ε α} (hquiet : Quiet p) :
    Tame D held p := Prog.Quiet.tame hlawful held hquiet

theorem bind {p : Proc σ Q A ε α} {f : α → Proc σ Q A ε β} (hp : Tame D held p)
    (hf : ∀ value, Tame D held (f value)) : Tame D held (p >>= f) := by
  refine Prog.Tame.bind hp ?_
  rintro (error | value)
  · trivial
  · exact hf value

theorem tryCatch {p : Proc σ Q A ε α} {handler : ε → Proc σ Q A ε α} (hp : Tame D held p)
    (hhandler : ∀ error, Tame D held (handler error)) :
    Tame D held (tryCatchThe ε p handler) := by
  refine Prog.Tame.bind hp ?_
  rintro (error | value)
  · exact hhandler error
  · trivial

theorem ite {c : Prop} [Decidable c] {p q : Proc σ Q A ε α} (hp : c → Tame D held p)
    (hq : ¬c → Tame D held q) : Tame D held (if c then p else q) := by
  split
  · exact hp ‹_›
  · exact hq ‹_›

theorem when (hlawful : D.Lawful) {c : Prop} [Decidable c] {p : Proc σ Q A ε Unit}
    (hp : Tame D held p) : Tame D held (Proc.when c p) := by
  unfold Proc.when
  split
  · exact hp
  · exact of_quiet hlawful (.pure ())

theorem modify {f : σ → σ}
    (hstep : ∀ state, D.invariant state → D.guarantee held state (f state) ∧ D.invariant (f state)) :
    Tame D held (Proc.modify f : Proc σ Q A ε Unit) := ⟨hstep, fun _ => trivial⟩

theorem transaction (hlawful : D.Lawful) {f : σ → Except ε (σ × α)}
    (hcommit : ∀ state state' value, D.invariant state → f state = .ok (state', value) →
      D.guarantee held state state' ∧ D.invariant state') :
    Tame D held (Proc.transaction f : Proc σ Q A ε α) := by
  refine ⟨fun state hinvariant => ?_, fun _ => trivial⟩
  cases hf : f state with
  | error error =>
      rw [committed_error hf]
      exact ⟨hlawful.guarantee_refl held state, hinvariant⟩
  | ok result =>
      rw [committed_ok hf]
      exact hcommit state result.1 result.2 hinvariant hf

/-- A tame program may be run anywhere, when nothing is to be known afterwards. -/
theorem wp {ok : Bool → α → σ → Prop} {err : Bool → ε → σ → Prop} {p : Proc σ Q A ε α} {state : σ}
    (htame : Tame D held p) (hok : ∀ value state', ok held value state')
    (herr : ∀ error state', err held error state') : Proc.wp D ok err p held state := by
  refine Prog.Tame.wp htame ?_
  rintro (error | value) state'
  · exact herr error state'
  · exact hok value state'

end Tame

/-- The program keeps the mutex where it is, and all its steps are of the kind `P`. -/
def Atoms (P : (σ → σ) → Prop) (p : Proc σ Q A ε α) : Prop := Prog.Atoms P p

namespace Atoms

variable {P : (σ → σ) → Prop}

theorem of_quiet (hid : P id) {p : Proc σ Q A ε α} (hquiet : Quiet p) : Atoms P p :=
  Prog.Quiet.atoms hid hquiet

theorem bind {p : Proc σ Q A ε α} {f : α → Proc σ Q A ε β} (hp : Atoms P p)
    (hf : ∀ value, Atoms P (f value)) : Atoms P (p >>= f) := by
  refine Prog.Atoms.bind hp ?_
  rintro (error | value)
  · trivial
  · exact hf value

theorem tryCatch {p : Proc σ Q A ε α} {handler : ε → Proc σ Q A ε α} (hp : Atoms P p)
    (hhandler : ∀ error, Atoms P (handler error)) : Atoms P (tryCatchThe ε p handler) := by
  refine Prog.Atoms.bind hp ?_
  rintro (error | value)
  · exact hhandler error
  · trivial

theorem ite {c : Prop} [Decidable c] {p q : Proc σ Q A ε α} (hp : c → Atoms P p)
    (hq : ¬c → Atoms P q) : Atoms P (if c then p else q) := by
  split
  · exact hp ‹_›
  · exact hq ‹_›

theorem modify {f : σ → σ} (hf : P f) : Atoms P (Proc.modify f : Proc σ Q A ε Unit) :=
  ⟨hf, fun _ => trivial⟩

theorem mono {P' : (σ → σ) → Prop} {p : Proc σ Q A ε α} (hp : Atoms P p)
    (hmono : ∀ update, P update → P' update) : Atoms P' p := Prog.Atoms.mono hp hmono

end Atoms

/-- Where the answers are as said, all steps of the program are of the kind `P`, and what
it returns is of the kind `R`. -/
def Every (answers : (query : Q) → A query → Prop) (P : (σ → σ) → Prop) (R : α → Prop)
    (p : Proc σ Q A ε α) : Prop :=
  Prog.Every answers P (fun result => ∀ value, result = .ok value → R value) p

namespace Every

variable {answers : (query : Q) → A query → Prop} {P : (σ → σ) → Prop}

theorem of_atoms {p : Proc σ Q A ε α} (hp : Atoms P p) : Every answers P (fun _ => True) p :=
  Prog.Every.mono (Prog.Atoms.every hp) fun _ _ _ _ => trivial

theorem mono {R R' : α → Prop} {p : Proc σ Q A ε α} (hp : Every answers P R p)
    (hR : ∀ value, R value → R' value) : Every answers P R' p :=
  Prog.Every.mono hp fun _ hvalue value hok => hR value (hvalue value hok)

theorem of_quiet (hid : P id) {p : Proc σ Q A ε α} (hquiet : Quiet p) :
    Every answers P (fun _ => True) p :=
  of_atoms (.of_quiet hid hquiet)

theorem pure {R : α → Prop} {value : α} (hvalue : R value) :
    Every answers P R (Pure.pure value : Proc σ Q A ε α) := by
  rintro _ ⟨⟩
  exact hvalue

theorem raise {R : α → Prop} (error : ε) : Every answers P R (throw error : Proc σ Q A ε α) :=
  fun _ h => by cases h

theorem ofExcept {R : α → Prop} {result : Except ε α}
    (hresult : ∀ value, result = .ok value → R value) :
    Every answers P R (Proc.ofExcept result : Proc σ Q A ε α) := hresult

theorem ask {query : Q} {R : A query → Prop} (hanswer : ∀ answer, answers query answer → R answer) :
    Every answers P R (Proc.ask query : Proc σ Q A ε (A query)) := by
  rintro answer hgiven _ ⟨⟩
  exact hanswer answer hgiven

theorem bind {R : α → Prop} {R' : β → Prop} {p : Proc σ Q A ε α} {f : α → Proc σ Q A ε β}
    (hp : Every answers P R p) (hf : ∀ value, R value → Every answers P R' (f value)) :
    Every answers P R' (p >>= f) := by
  refine Prog.Every.bind hp ?_
  rintro (error | value) hvalue
  · exact fun _ h => by cases h
  · exact hf value (hvalue value rfl)

theorem tryCatch {R : α → Prop} {p : Proc σ Q A ε α} {handler : ε → Proc σ Q A ε α}
    (hp : Every answers P R p) (hhandler : ∀ error, Every answers P R (handler error)) :
    Every answers P R (tryCatchThe ε p handler) := by
  refine Prog.Every.bind hp ?_
  rintro (error | value) hvalue
  · exact hhandler error
  · rintro _ ⟨⟩
    exact hvalue value rfl

theorem ite {R : α → Prop} {c : Prop} [Decidable c] {p q : Proc σ Q A ε α}
    (hp : c → Every answers P R p) (hq : ¬c → Every answers P R q) :
    Every answers P R (if c then p else q) := by
  split
  · exact hp ‹_›
  · exact hq ‹_›

theorem transaction {f : σ → Except ε (σ × α)} (hf : P (committed f)) :
    Every answers P (fun _ => True) (Proc.transaction f : Proc σ Q A ε α) :=
  ⟨hf, fun _ _ _ => trivial⟩

theorem withLock {R : α → Prop} {p : Proc σ Q A ε α} (hp : Every answers P R p) :
    Every answers P R (Proc.withLock p) :=
  Prog.Every.bind hp fun _ hvalue => hvalue

end Every

/-- A tame program whose steps carry a fact along. -/
def Carries (D : Prog.Discipline σ Q A) (J : σ → Prop) (held : Bool) (p : Proc σ Q A ε α) : Prop :=
  Prog.Carries D J held p

namespace Carries

variable {D : Prog.Discipline σ Q A} {J : σ → Prop} {held : Bool}

theorem of_quiet (hlawful : D.Lawful) {p : Proc σ Q A ε α} (hquiet : Quiet p) :
    Carries D J held p := Prog.Quiet.carries hlawful J held hquiet

theorem bind {p : Proc σ Q A ε α} {f : α → Proc σ Q A ε β} (hp : Carries D J held p)
    (hf : ∀ value, Carries D J held (f value)) : Carries D J held (p >>= f) := by
  refine Prog.Carries.bind hp ?_
  rintro (error | value)
  · trivial
  · exact hf value

theorem tryCatch {p : Proc σ Q A ε α} {handler : ε → Proc σ Q A ε α} (hp : Carries D J held p)
    (hhandler : ∀ error, Carries D J held (handler error)) :
    Carries D J held (tryCatchThe ε p handler) := by
  refine Prog.Carries.bind hp ?_
  rintro (error | value)
  · exact hhandler error
  · trivial

theorem ite {c : Prop} [Decidable c] {p q : Proc σ Q A ε α} (hp : c → Carries D J held p)
    (hq : ¬c → Carries D J held q) : Carries D J held (if c then p else q) := by
  split
  · exact hp ‹_›
  · exact hq ‹_›

theorem modify {f : σ → σ} (hstep : ∀ state, D.invariant state → J state →
    D.guarantee held state (f state) ∧ D.invariant (f state) ∧ J (f state)) :
    Carries D J held (Proc.modify f : Proc σ Q A ε Unit) := ⟨hstep, fun _ => trivial⟩

theorem transaction (hlawful : D.Lawful) {f : σ → Except ε (σ × α)}
    (hcommit : ∀ state state' value, D.invariant state → J state → f state = .ok (state', value) →
      D.guarantee held state state' ∧ D.invariant state' ∧ J state') :
    Carries D J held (Proc.transaction f) := by
  refine ⟨fun state hinvariant hstate => ?_, fun _ => trivial⟩
  cases hf : f state with
  | error error =>
      rw [committed_error hf]
      exact ⟨hlawful.guarantee_refl held state, hinvariant, hstate⟩
  | ok result =>
      rw [committed_ok hf]
      exact hcommit state result.1 result.2 hinvariant hstate hf

theorem of_atoms {P : (σ → σ) → Prop} {p : Proc σ Q A ε α} (hp : Atoms P p)
    (hstep : ∀ update, P update → ∀ state, D.invariant state → J state →
      D.guarantee held state (update state) ∧ D.invariant (update state) ∧ J (update state)) :
    Carries D J held p := Prog.Atoms.carries hstep hp

theorem tame {p : Proc σ Q A ε α} (hcarries : Carries D (fun _ => True) held p) :
    Tame D held p := Prog.Carries.tame hcarries

theorem wp {ok : Bool → α → σ → Prop} {err : Bool → ε → σ → Prop} {p : Proc σ Q A ε α}
    {state : σ} (hcarries : Carries D J held p) (hstate : J state)
    (hstable : ∀ state state', D.rely held state state' → J state → J state')
    (hok : ∀ value state, J state → ok held value state)
    (herr : ∀ error state, J state → err held error state) : Proc.wp D ok err p held state := by
  refine Prog.Carries.wp hcarries hstable ?_ hstate
  rintro (error | value) state hcarried
  · exact herr error state hcarried
  · exact hok value state hcarried

end Carries

/-! ## What a program may raise -/

/-- Whatever the program finds and is told, it returns or raises one of `E`. -/
def RaisesOnly (E : ε → Prop) (p : Proc σ Q A ε α) : Prop :=
  Prog.Results (fun result => ∀ error, result = .error error → E error) p

namespace RaisesOnly

variable {E : ε → Prop}

theorem pure (value : α) : RaisesOnly E (Pure.pure value : Proc σ Q A ε α) := fun _ h => by cases h

theorem raise {error : ε} (herror : E error) : RaisesOnly E (throw error : Proc σ Q A ε α) := by
  rintro _ ⟨⟩
  exact herror

theorem read (f : σ → α) : RaisesOnly E (Proc.read f : Proc σ Q A ε α) := fun _ _ h => by cases h

theorem ask (query : Q) : RaisesOnly E (Proc.ask query : Proc σ Q A ε (A query)) :=
  fun _ _ h => by cases h

theorem bind {p : Proc σ Q A ε α} {f : α → Proc σ Q A ε β} (hp : RaisesOnly E p)
    (hf : ∀ value, RaisesOnly E (f value)) : RaisesOnly E (p >>= f) := by
  refine Prog.Results.bind hp ?_
  rintro (error | value) hresult
  · rintro _ ⟨⟩
    exact hresult error rfl
  · exact hf value

theorem ite {c : Prop} [Decidable c] {p q : Proc σ Q A ε α} (hp : c → RaisesOnly E p)
    (hq : ¬c → RaisesOnly E q) : RaisesOnly E (if c then p else q) := by
  split
  · exact hp ‹_›
  · exact hq ‹_›

theorem wp {D : Prog.Discipline σ Q A} {ok : Bool → α → σ → Prop} {err : Bool → ε → σ → Prop}
    {p : Proc σ Q A ε α} {held : Bool} {state : σ} (hp : RaisesOnly E p)
    (hwp : Proc.wp D ok (fun held error state => E error → err held error state) p held state) :
    Proc.wp D ok err p held state := by
  refine Prog.Results.wp hp (Prog.wp_mono ?_ hwp)
  rintro held' (error | value) state' hpost hresult
  · exact hpost (hresult error rfl)
  · exact hpost

end RaisesOnly

/-! ## Safe programs -/

/-- The program may be started without the mutex in any state, and ends without it. -/
def Safe (D : Prog.Discipline σ Q A) (p : Proc σ Q A ε α) : Prop :=
  ∀ state, wp D (fun held _ _ => held = false) (fun held _ _ => held = false) p false state

namespace Safe

variable {D : Prog.Discipline σ Q A} {p : Proc σ Q A ε α}

theorem of_tame (htame : Tame D false p) : Safe D p :=
  fun _ => htame.wp (fun _ _ => rfl) fun _ _ => rfl

theorem of_quiet (hlawful : D.Lawful) (hquiet : Quiet p) : Safe D p :=
  of_tame (.of_quiet hlawful hquiet)

theorem when (hlawful : D.Lawful) {c : Prop} [Decidable c] {p : Proc σ Q A ε Unit}
    (hp : Safe D p) : Safe D (Proc.when c p) := by
  unfold Proc.when
  split
  · exact hp
  · exact of_quiet hlawful (.pure ())

/-- A section whose steps are tame under the mutex. -/
theorem withLock (htame : Tame D true p) : Safe D (Proc.withLock p) :=
  fun _ => wp_withLock fun _ _ => htame.wp (fun _ _ => ⟨rfl, fun _ _ => rfl⟩)
    fun _ _ => ⟨rfl, fun _ _ => rfl⟩

/-- A section that starts with the mutex and ends with it. -/
theorem withLock_of_wp (hp : ∀ state, wp D (fun held _ _ => held = true) (fun held _ _ => held = true)
    p true state) : Safe D (Proc.withLock p) :=
  fun _ => wp_withLock fun state _ => wp_mono (hp state) (fun _ _ _ hheld => ⟨hheld, fun _ _ => rfl⟩)
    fun _ _ _ hheld => ⟨hheld, fun _ _ => rfl⟩

theorem bind {f : α → Proc σ Q A ε β} (hp : Safe D p) (hf : ∀ value, Safe D (f value)) :
    Safe D (p >>= f) := by
  intro state
  refine wp_bind.mpr (wp_mono (hp state) ?_ fun _ _ _ hheld => hheld)
  rintro held value state rfl
  exact hf value state

theorem tryCatch {handler : ε → Proc σ Q A ε α} (hp : Safe D p)
    (hhandler : ∀ error, Safe D (handler error)) : Safe D (tryCatchThe ε p handler) := by
  intro state
  refine wp_tryCatch.mpr (wp_mono (hp state) (fun _ _ _ hheld => hheld) ?_)
  rintro held error state rfl
  exact hhandler error state

theorem ite {c : Prop} [Decidable c] {q : Proc σ Q A ε α} (hp : Safe D p) (hq : Safe D q) :
    Safe D (if c then p else q) := by
  split
  · exact hp
  · exact hq

end Safe

/-- The program for its effect alone. -/
def forget (p : Proc σ Q A ε α) : Prog σ Q A Unit := Prog.bind p fun _ => .done ()

theorem Safe.forget_wp {D : Prog.Discipline σ Q A} {p : Proc σ Q A ε α} (hsafe : Safe D p)
    (state : σ) : (forget p).wp D (fun held _ _ => held = false) false state := by
  refine (Prog.wp_bind p).mpr (Prog.wp_mono ?_ (hsafe state))
  rintro held (error | value) state hheld <;> exact hheld

end Proc

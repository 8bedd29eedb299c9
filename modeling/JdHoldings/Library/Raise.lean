import Mathlib.Tactic.TypeStar

/-!
# Raising in `Except`

`raiseIf bad error` is the statement `if bad: raise error`.  A sequence of such
checks returns exactly when none of them fires, and `Except.bind_eq_ok` peels a
sequence apart one statement at a time.
-/

universe v

variable {ε : Type*} {α β : Type v}

/-- `if bad: raise error`. -/
def raiseIf (bad : Prop) [Decidable bad] (error : ε) : Except ε Unit :=
  if bad then .error error else .ok ()

@[simp] theorem raiseIf_eq_ok {bad : Prop} [Decidable bad] {error : ε} {u : Unit} :
    raiseIf bad error = .ok u ↔ ¬bad := by
  unfold raiseIf
  split <;> simp [*]

theorem raiseIf_eq_error {bad : Prop} [Decidable bad] {error error' : ε} :
    raiseIf bad error = .error error' ↔ bad ∧ error = error' := by
  unfold raiseIf
  split <;> simp [*]

/-- A sequence returns exactly when its first statement does and the rest does
after it. -/
theorem Except.bind_eq_ok {first : Except ε α} {rest : α → Except ε β} {result : β} :
    (first >>= rest) = .ok result ↔ ∃ value, first = .ok value ∧ rest value = .ok result := by
  constructor
  · intro hok
    cases first with
    | error error => cases hok
    | ok value => exact ⟨value, rfl, hok⟩
  · rintro ⟨value, rfl, hok⟩
    exact hok

theorem Except.toOption_eq_some {computed : Except ε α} {value : α} :
    computed.toOption = some value ↔ computed = .ok value := by
  cases computed with
  | error error => simp [Except.toOption]
  | ok result => simp [Except.toOption]

/-- A sequence raises what one of its parts raises. -/
theorem Except.bind_raises {E : ε → Prop} {first : Except ε α} {rest : α → Except ε β}
    (hfirst : ∀ error, first = .error error → E error)
    (hrest : ∀ value error, rest value = .error error → E error) :
    ∀ error, (first >>= rest) = .error error → E error := by
  intro error herror
  cases first with
  | error raised =>
      cases herror
      exact hfirst error rfl
  | ok value => exact hrest value error herror

theorem Except.ok_then (value : α) (rest : α → Except ε β) :
    ((.ok value : Except ε α) >>= rest) = rest value := rfl

theorem Except.map_then {γ : Type v} (first : Except ε α) (rest : α → Except ε β) (f : β → γ) :
    (first >>= rest).map f = first >>= fun value => (rest value).map f := by
  cases first with
  | error error => rfl
  | ok value => rfl

/-! ## Transactions -/

section Transaction

variable {σ δ : Type*}

/-- `with transaction():` the writes of the body are kept when it returns. -/
def inTransaction (body : σ → σ × Except ε δ) (state : σ) : σ × Except ε δ :=
  match body state with
  | (after, .ok value) => (after, .ok value)
  | (_, .error error) => (state, .error error)

theorem inTransaction_of_error {body : σ → σ × Except ε δ} {state : σ} {error : ε}
    (herror : (body state).2 = .error error) :
    inTransaction body state = (state, .error error) := by
  unfold inTransaction
  generalize body state = result at herror
  obtain ⟨after, value⟩ := result
  rw [show value = .error error from herror]

theorem inTransaction_of_ok {body : σ → σ × Except ε δ} {state : σ} {value : δ}
    (hok : (body state).2 = .ok value) :
    inTransaction body state = ((body state).1, .ok value) := by
  unfold inTransaction
  generalize body state = result at hok
  obtain ⟨after, value'⟩ := result
  rw [show value' = .ok value from hok]

/-- A transaction that raises leaves the state as it was. -/
theorem inTransaction_snd {body : σ → σ × Except ε δ} {state : σ} :
    (inTransaction body state).2 = (body state).2 := by
  unfold inTransaction
  generalize body state = result
  rcases result with ⟨after, error | value⟩ <;> rfl

end Transaction

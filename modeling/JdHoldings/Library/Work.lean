import Mathlib.Data.Nat.Notation

/-!
# Units of work on a database

A program that reads and writes a database statement by statement, asks the outside
world, and may fail at every one of these points.  A statement outside any transaction
commits at once.  A transaction works on a copy of the database: the outermost one
commits the copy or drops it, and a nested one is a savepoint of the copy.

* Whatever is nested in it, a transaction that fails leaves the committed database as it
  was (`run_transaction_error`).
* A program that swallows no failure of its own statements and comes through has met
  none (`Strict.run_ok`), so that it did what it does when nothing fails.
* `perform` is what a program does when nothing fails, as a function of the database.
-/

/-- A program on a database `σ`, with questions `Q` answered in `A` and exceptions `ε`. -/
inductive Work (σ Q : Type) (A : Q → Type) (ε : Type) : Type → Type 1
  | pure {α : Type} (value : α) : Work σ Q A ε α
  | throw {α : Type} (error : ε) : Work σ Q A ε α
  | statement {α : Type} (f : σ → Except ε (α × σ)) : Work σ Q A ε α
  | ask (query : Q) : Work σ Q A ε (A query)
  | bind {α β : Type} (p : Work σ Q A ε β) (f : β → Work σ Q A ε α) : Work σ Q A ε α
  | tryCatch {α : Type} (p : Work σ Q A ε α) (handler : ε → Work σ Q A ε α) : Work σ Q A ε α
  | transaction {α : Type} (body : Work σ Q A ε α) : Work σ Q A ε α

namespace Work

variable {σ Q ε α β : Type} {A : Q → Type}

instance : Monad (Work σ Q A ε) where
  pure := Work.pure
  bind := Work.bind

instance : MonadExceptOf ε (Work σ Q A ε) where
  throw := Work.throw
  tryCatch := Work.tryCatch

/-- The committed database, the copy of the transaction that is open, and how often
something could have failed: at a statement, at a question, and where a transaction
begins and ends. -/
structure Session (σ : Type) where
  committed : σ
  working : Option σ := none
  clock : ℕ := 0

namespace Session

/-- What a statement sees. -/
def view (session : Session σ) : σ := session.working.getD session.committed

def tick (session : Session σ) : Session σ := { session with clock := session.clock + 1 }

/-- A write goes into the open transaction, or is committed at once. -/
def write (session : Session σ) (state : σ) : Session σ :=
  match session.working with
  | none => { session with committed := state }
  | some _ => { session with working := some state }

end Session

/-- What the outside world answers, and where something fails. -/
structure Surroundings (Q : Type) (A : Q → Type) (ε : Type) where
  answer : (query : Q) → Except ε (A query)
  fault : ℕ → Option ε

/-- Nothing fails on its own. -/
def Surroundings.calm (surroundings : Surroundings Q A ε) : Surroundings Q A ε :=
  { surroundings with fault := fun _ => none }

/-- How the program runs. -/
def run (surroundings : Surroundings Q A ε) :
    {α : Type} → Work σ Q A ε α → Session σ → Except ε α × Session σ
  | _, .pure value, session => (.ok value, session)
  | _, .throw error, session => (.error error, session)
  | _, .statement f, session =>
      match surroundings.fault session.clock with
      | some error => (.error error, session.tick)
      | none =>
          match f session.view with
          | .error error => (.error error, session.tick)
          | .ok (value, state) => (.ok value, session.tick.write state)
  | _, .ask query, session =>
      match surroundings.fault session.clock with
      | some error => (.error error, session.tick)
      | none => (surroundings.answer query, session.tick)
  | _, .bind p f, session =>
      match p.run surroundings session with
      | (.error error, session) => (.error error, session)
      | (.ok value, session) => (f value).run surroundings session
  | _, .tryCatch p handler, session =>
      match p.run surroundings session with
      | (.error error, session) => (handler error).run surroundings session
      | (.ok value, session) => (.ok value, session)
  | _, .transaction body, session =>
      match surroundings.fault session.clock with
      | some error => (.error error, session.tick)
      | none =>
          match session.working with
          | none =>
              match body.run surroundings { session.tick with working := some session.committed } with
              | (.error error, inner) => (.error error, { inner with working := none })
              | (.ok value, inner) =>
                  match surroundings.fault inner.clock with
                  | some error => (.error error, { inner.tick with working := none })
                  | none => (.ok value, { inner.tick with committed := inner.view, working := none })
          | some copy =>
              match body.run surroundings session.tick with
              | (.error error, inner) => (.error error, { inner with working := some copy })
              | (.ok value, inner) =>
                  match surroundings.fault inner.clock with
                  | some error => (.error error, inner.tick)
                  | none => (.ok value, inner.tick)

variable {surroundings : Surroundings Q A ε}

/-! ## No write escapes an open transaction -/

/-- Inside a transaction the committed database stays as it is, and the transaction
stays open. -/
theorem run_inside (p : Work σ Q A ε α) : ∀ {session : Session σ}, session.working.isSome = true →
    (p.run surroundings session).2.committed = session.committed ∧
      (p.run surroundings session).2.working.isSome = true := by
  induction p with
  | pure value => exact fun hopen => ⟨rfl, hopen⟩
  | throw error => exact fun hopen => ⟨rfl, hopen⟩
  | statement f =>
      intro session hopen
      simp only [run]
      split
      · exact ⟨rfl, hopen⟩
      · split
        · exact ⟨rfl, hopen⟩
        · -- A statement writes the open copy.
          obtain ⟨copy, hcopy⟩ := Option.isSome_iff_exists.mp hopen
          simp [Session.write, Session.tick, hcopy]
  | ask query =>
      intro session hopen
      simp only [run]
      split
      · exact ⟨rfl, hopen⟩
      · exact ⟨rfl, hopen⟩
  | bind p f ihp ihf =>
      intro session hopen
      obtain ⟨hcommitted, hstill⟩ := ihp hopen
      simp only [run]
      split
      · rename_i hrun
        rw [hrun] at hcommitted hstill
        exact ⟨hcommitted, hstill⟩
      · rename_i value inner hrun
        rw [hrun] at hcommitted hstill
        obtain ⟨hrest, hopen'⟩ := ihf value hstill
        exact ⟨hrest.trans hcommitted, hopen'⟩
  | tryCatch p handler ihp ihhandler =>
      intro session hopen
      obtain ⟨hcommitted, hstill⟩ := ihp hopen
      simp only [run]
      split
      · rename_i error inner hrun
        rw [hrun] at hcommitted hstill
        obtain ⟨hrest, hopen'⟩ := ihhandler error hstill
        exact ⟨hrest.trans hcommitted, hopen'⟩
      · rename_i hrun
        rw [hrun] at hcommitted hstill
        exact ⟨hcommitted, hstill⟩
  | transaction body ih =>
      -- Inside an open transaction this one is a savepoint: rolled back or released, the copy stays
      -- open and nothing is committed.
      intro session hopen
      obtain ⟨copy, hcopy⟩ := Option.isSome_iff_exists.mp hopen
      have hticked : session.tick.working.isSome = true := hopen
      obtain ⟨hcommitted, hstill⟩ := ih hticked
      simp only [run, hcopy]
      split
      · exact ⟨rfl, hopen⟩
      · split
        · rename_i hrun
          rw [hrun] at hcommitted
          exact ⟨hcommitted, rfl⟩
        · rename_i hrun
          rw [hrun] at hcommitted hstill
          split
          · exact ⟨hcommitted, hstill⟩
          · exact ⟨hcommitted, hstill⟩

/-- A transaction that fails leaves the committed database as it was, and nothing is
open afterwards. -/
theorem run_transaction_error {body : Work σ Q A ε α} {session inner : Session σ} {error : ε}
    (hidle : session.working = none)
    (hrun : (transaction body).run surroundings session = (.error error, inner)) :
    inner.committed = session.committed ∧ inner.working = none := by
  let opened : Session σ := { session.tick with working := some session.committed }
  have hopen : opened.working.isSome = true := rfl
  have hinside : (body.run surroundings opened).2.committed = opened.committed ∧ _ :=
    run_inside body hopen
  obtain ⟨hcommitted, -⟩ := hinside
  simp only [run, hidle] at hrun
  split at hrun
  · obtain ⟨-, rfl⟩ := Prod.mk.inj hrun
    exact ⟨rfl, hidle⟩
  · split at hrun
    · rename_i hbody
      rw [hbody] at hcommitted
      obtain ⟨-, rfl⟩ := Prod.mk.inj hrun
      exact ⟨hcommitted, rfl⟩
    · rename_i hbody
      rw [hbody] at hcommitted
      split at hrun
      · obtain ⟨-, rfl⟩ := Prod.mk.inj hrun
        exact ⟨hcommitted, rfl⟩
      · cases hrun

/-! ## Programs that swallow nothing -/

/-- The program never comes through. -/
def Fails (p : Work σ Q A ε α) : Prop :=
  ∀ (surroundings : Surroundings Q A ε) (session : Session σ),
    ∃ error, (p.run surroundings session).1 = .error error

theorem Fails.throw (error : ε) : (throw error : Work σ Q A ε α).Fails :=
  fun _ _ => ⟨error, rfl⟩

/-- What is said before an exception is raised may itself fail. -/
theorem Fails.bind {p : Work σ Q A ε β} {f : β → Work σ Q A ε α} (hf : ∀ value, (f value).Fails) :
    (bind p f).Fails := by
  intro surroundings session
  simp only [run]
  split
  · exact ⟨_, rfl⟩
  · exact hf _ surroundings _

/-- Every handler of the program raises again. -/
def Strict : {α : Type} → Work σ Q A ε α → Prop
  | _, .pure _ => True
  | _, .throw _ => True
  | _, .statement _ => True
  | _, .ask _ => True
  | _, .bind p f => p.Strict ∧ ∀ value, (f value).Strict
  | _, .tryCatch p handler => p.Strict ∧ ∀ error, (handler error).Fails
  | _, .transaction body => body.Strict

/-- A strict program that comes through has met no failure. -/
theorem Strict.run_ok {p : Work σ Q A ε α} (hstrict : p.Strict) :
    ∀ {session inner : Session σ} {value : α}, p.run surroundings session = (.ok value, inner) →
      p.run surroundings.calm session = (.ok value, inner) := by
  induction p with
  | pure value => exact fun hrun => hrun
  | throw error => exact fun hrun => hrun
  | statement f =>
      intro session inner value hrun
      simp only [run] at hrun
      split at hrun
      · cases hrun
      · exact hrun
  | ask query =>
      intro session inner value hrun
      simp only [run] at hrun
      split at hrun
      · cases hrun
      · exact hrun
  | bind p f ihp ihf =>
      intro session inner value hrun
      simp only [run] at hrun ⊢
      split at hrun
      · cases hrun
      · rename_i first middle hfirst
        rw [ihp hstrict.1 hfirst]
        exact ihf first (hstrict.2 first) hrun
  | tryCatch p handler ihp ihhandler =>
      intro session inner value hrun
      simp only [run] at hrun ⊢
      split at hrun
      · rename_i error middle hfirst
        -- A handler of a strict program raises again, so the body returned.
        obtain ⟨error', hfails⟩ := hstrict.2 error surroundings middle
        rw [hrun] at hfails
        cases hfails
      · rename_i first middle hfirst
        rw [ihp hstrict.1 hfirst]
        exact hrun
  | transaction body ih =>
      -- Either kind of transaction returned, so neither its start nor its end failed.
      intro session inner value hrun
      simp only [run] at hrun ⊢
      split at hrun
      · cases hrun
      · split at hrun
        · split at hrun
          · cases hrun
          · rename_i hbody
            rw [ih hstrict hbody]
            split at hrun
            · cases hrun
            · exact hrun
        · split at hrun
          · cases hrun
          · rename_i hbody
            rw [ih hstrict hbody]
            split at hrun
            · cases hrun
            · exact hrun

/-! ## When nothing fails -/

/-- What the program makes of the database when nothing fails but what it raises itself. -/
def perform (answer : (query : Q) → Except ε (A query)) :
    {α : Type} → Work σ Q A ε α → σ → Except ε α × σ
  | _, .pure value, state => (.ok value, state)
  | _, .throw error, state => (.error error, state)
  | _, .statement f, state =>
      match f state with
      | .error error => (.error error, state)
      | .ok (value, state) => (.ok value, state)
  | _, .ask query, state => (answer query, state)
  | _, .bind p f, state =>
      match p.perform answer state with
      | (.error error, state) => (.error error, state)
      | (.ok value, state) => (f value).perform answer state
  | _, .tryCatch p handler, state =>
      match p.perform answer state with
      | (.error error, state) => (handler error).perform answer state
      | (.ok value, state) => (.ok value, state)
  | _, .transaction body, state =>
      match body.perform answer state with
      | (.error error, _) => (.error error, state)
      | (.ok value, state) => (.ok value, state)

section Perform

variable {answer : (query : Q) → Except ε (A query)} {state : σ}

@[simp] theorem perform_bind (p : Work σ Q A ε β) (f : β → Work σ Q A ε α) :
    (p >>= f).perform answer state = match p.perform answer state with
      | (.error error, state) => (.error error, state)
      | (.ok value, state) => (f value).perform answer state := by
  show (Work.bind p f).perform answer state = _
  rw [perform]

@[simp] theorem perform_pure (value : α) :
    (Pure.pure value : Work σ Q A ε α).perform answer state = (.ok value, state) := rfl

@[simp] theorem perform_throw (error : ε) :
    (MonadExcept.throw error : Work σ Q A ε α).perform answer state = (.error error, state) := rfl

@[simp] theorem perform_ask (query : Q) :
    (Work.ask query : Work σ Q A ε (A query)).perform answer state = (answer query, state) := rfl

theorem perform_tryCatch (p : Work σ Q A ε α) (handler : ε → Work σ Q A ε α) :
    (tryCatchThe ε p handler).perform answer state = match p.perform answer state with
      | (.error error, state) => (handler error).perform answer state
      | (.ok value, state) => (.ok value, state) := by
  show (Work.tryCatch p handler).perform answer state = _
  rw [perform]

theorem perform_transaction (body : Work σ Q A ε α) :
    (transaction body).perform answer state = match body.perform answer state with
      | (.error error, _) => (.error error, state)
      | (.ok value, state) => (.ok value, state) := by
  rw [perform]

end Perform

/-- Inside a transaction, a run in which nothing fails is `perform` on its copy. -/
theorem run_calm (p : Work σ Q A ε α) : ∀ {session : Session σ} {copy : σ},
    session.working = some copy → ∃ clock, p.run surroundings.calm session =
      ((p.perform surroundings.answer copy).1,
        ⟨session.committed, some (p.perform surroundings.answer copy).2, clock⟩) := by
  induction p with
  | pure value =>
      rintro ⟨committed, working, clock⟩ copy rfl
      exact ⟨clock, rfl⟩
  | throw error =>
      rintro ⟨committed, working, clock⟩ copy rfl
      exact ⟨clock, rfl⟩
  | statement f =>
      rintro ⟨committed, working, clock⟩ copy rfl
      refine ⟨clock + 1, ?_⟩
      simp only [run, perform, Surroundings.calm, Session.view, Session.tick, Option.getD_some]
      cases f copy with
      | error error => rfl
      | ok result => rfl
  | ask query =>
      rintro ⟨committed, working, clock⟩ copy rfl
      exact ⟨clock + 1, rfl⟩
  | bind p f ihp ihf =>
      intro session copy hcopy
      obtain ⟨clock, hfirst⟩ := ihp hcopy
      simp only [run, perform, hfirst]
      cases hperform : p.perform surroundings.answer copy with
      | mk result state =>
          cases result with
          | error error => exact ⟨clock, rfl⟩
          | ok value => exact ihf value rfl
  | tryCatch p handler ihp ihhandler =>
      intro session copy hcopy
      obtain ⟨clock, hfirst⟩ := ihp hcopy
      simp only [run, perform, hfirst]
      cases hperform : p.perform surroundings.answer copy with
      | mk result state =>
          cases result with
          | error error => exact ihhandler error rfl
          | ok value => exact ⟨clock, rfl⟩
  | transaction body ih =>
      -- On the open copy the savepoint is released, or rolled back to the copy it started from.
      intro session copy hcopy
      have hticked : session.tick.working = some copy := hcopy
      obtain ⟨clock, hbody⟩ := ih hticked
      simp only [run, perform, Surroundings.calm, hcopy] at hbody ⊢
      rw [hbody]
      cases hperform : body.perform surroundings.answer copy with
      | mk result state =>
          cases result with
          | error error => exact ⟨clock, rfl⟩
          | ok value => exact ⟨clock + 1, rfl⟩

/-- A transaction of a strict program that starts on an idle connection either fails and
leaves no trace, or does all of what it does when nothing fails. -/
theorem run_transaction {body : Work σ Q A ε α} (hstrict : body.Strict) {session : Session σ}
    (hidle : session.working = none) :
    (∃ error, ((transaction body).run surroundings session).1 = .error error ∧
        ((transaction body).run surroundings session).2.committed = session.committed) ∨
      ∃ value, ((transaction body).run surroundings session).1 = .ok value ∧
        body.perform surroundings.answer session.committed =
          (.ok value, ((transaction body).run surroundings session).2.committed) := by
  cases hrun : (transaction body).run surroundings session with
  | mk result inner =>
      cases result with
      | error error => exact Or.inl ⟨error, rfl, (run_transaction_error hidle hrun).1⟩
      | ok value =>
          refine Or.inr ⟨value, rfl, ?_⟩
          have hcalm := Strict.run_ok (p := transaction body) hstrict hrun
          let opened : Session σ := { session.tick with working := some session.committed }
          have hopen : opened.working = some session.committed := rfl
          obtain ⟨clock, hbody⟩ : ∃ clock, body.run surroundings.calm opened = _ :=
            run_calm body hopen
          simp only [run, hidle, Surroundings.calm] at hcalm hbody
          rw [hbody] at hcalm
          cases hperform : body.perform surroundings.answer session.committed with
          | mk performed state =>
              rw [hperform] at hcalm
              cases performed with
              | error error => cases hcalm
              | ok done =>
                  obtain ⟨hvalue, rfl⟩ := Prod.mk.inj hcalm
                  rw [hvalue]
                  rfl

end Work

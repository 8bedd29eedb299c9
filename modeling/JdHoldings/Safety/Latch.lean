import JdHoldings.Automation.Quarantine
import JdHoldings.Capital.SameLedger
import JdHoldings.Library.Pool

/-!
# What the threads keep of the operator's halt

A second discipline of the live process, about `operator_buy_halt` and the operator
latch.  A thread is named after the service call it is in (`Caller`), so that what a
resume may do can be told from what the others may.

* **Keys.**  The halt and the latch are written by the holder of `BUY_EXECUTION_LOCK`
  alone, and only a resume takes the latch back.
* **In force.**  Once a halt has written both keys they stay as they are until a resume
  opens BUY; whoever else wants to open it looks at the latch under the lock.
* **Order.**  A resume opens BUY first and takes the latch back afterwards.  Between
  the two writes, and after a crash there, the latch stands without the halt.
-/

namespace JdHoldings

/-- The service call a thread is in. -/
inductive Call where
  | submit
  | halt
  | resume
  | quarantine
  | release
  | change
  | elsewhere
deriving DecidableEq, Repr

/-- A thread, named after its call. -/
abbrev Caller (τ : Type) := τ × Call

/-- The two keys of the operator's halt. -/
structure HaltKeys where
  operatorBuyHalt : Option Bool
  operatorHaltLatched : Option Bool
deriving DecidableEq, Repr

def SystemState.haltKeys (system : SystemState) : HaltKeys where
  operatorBuyHalt := system.operatorBuyHalt
  operatorHaltLatched := system.operatorHaltLatched

namespace Latch

variable {τ ι α : Type}

/-! ## Vocabulary -/

/-- The event moves the halt. -/
def isGate : Event τ ι → Bool
  | .closed _ | .reopened _ => true
  | _ => false

/-- Everything that moved the halt, newest first. -/
def gates (log : List (Event τ ι)) : List (Event τ ι) := log.filter isGate

/-- A resume opens BUY. -/
def isResume : Event (Caller τ) ι → Bool
  | .reopened self => decide (self.2 = .resume)
  | _ => false

/-- How often a resume has opened BUY. -/
def resumes (log : List (Event (Caller τ) ι)) : ℕ := log.countP isResume

/-- The last thing that moved the halt was a resume that opened BUY. -/
def ResumedLast (log : List (Event (Caller τ) ι)) : Prop :=
  ∃ event rest, gates log = event :: rest ∧ isResume event = true

section Closings

variable [DecidableEq τ]

def isClosingOf (self : Caller τ) : Event (Caller τ) ι → Bool
  | .closed thread => decide (thread = self)
  | _ => false

/-- How often the thread has shut BUY. -/
def closings (self : Caller τ) (log : List (Event (Caller τ) ι)) : ℕ := log.countP (isClosingOf self)

end Closings

/-- BUY is halted, and the operator's latch is set. -/
def InForce (world : World (Caller τ) ι) : Prop :=
  world.repo.system.haltKeys = ⟨some true, some true⟩

/-- Whatever the thread has shut is in force, unless a resume came after it. -/
def Standing (self : Caller τ) (world : World (Caller τ) ι) : Prop :=
  ∀ later earlier, world.log = later ++ .closed self :: earlier → resumes later = 0 → InForce world

/-! ## The discipline -/

variable [DecidableEq τ]

/-- What a step of `thread` keeps. -/
structure Keeps (thread : Caller τ) (held : Bool) (world world' : World (Caller τ) ι) : Prop where
  keys : held = false → world'.repo.system.haltKeys = world.repo.system.haltKeys
  gates : held = false → gates world'.log = gates world.log
  grows : world.log <:+ world'.log
  enabled : world'.repo.system.autoEnabled = world.repo.system.autoEnabled
  latch : thread.2 ≠ .resume → world.repo.system.operatorHaltLatched = some true →
    world'.repo.system.operatorHaltLatched = some true
  force : InForce world → InForce world' ∨ resumes world.log < resumes world'.log
  others : ∀ other, other ≠ thread → closings other world'.log = closings other world.log

/-- What `thread` relies on. -/
structure Relies (thread : Caller τ) (held : Bool) (world world' : World (Caller τ) ι) : Prop where
  keys : held = true → world'.repo.system.haltKeys = world.repo.system.haltKeys
  gates : held = true → gates world'.log = gates world.log
  grows : world.log <:+ world'.log
  enabled : world'.repo.system.autoEnabled = world.repo.system.autoEnabled
  force : resumes world'.log = resumes world.log → InForce world → InForce world'
  own : closings thread world'.log = closings thread world.log

/-- What holds at every step. -/
structure Invariant (world : World (Caller τ) ι) : Prop where
  enabled : world.repo.system.autoEnabled = some true
  latched : world.repo.system.operatorHaltLatched = some true →
    world.repo.system.operatorBuyHalt = some true ∨ ResumedLast world.log
  standing : ∀ self later earlier, self.2 = Call.halt →
    world.log = later ++ .closed self :: earlier → .returned self ∈ later → resumes later = 0 →
      InForce world

/-- The discipline of the thread `self`. -/
def discipline (self : Caller τ) : Prog.Discipline (World (Caller τ) ι) (Query ι) Answer where
  rely := Relies self
  guarantee := Keeps self
  invariant := Invariant
  answers := fun _ _ => True

variable {self : Caller τ} {held : Bool} {world world' world'' : World (Caller τ) ι}

omit [DecidableEq τ] in
theorem resumes_mono {log log' : List (Event (Caller τ) ι)} (hgrows : log <:+ log') :
    resumes log ≤ resumes log' := hgrows.sublist.countP_le

theorem Keeps.refl (self : Caller τ) (held : Bool) (world : World (Caller τ) ι) :
    Keeps self held world world :=
  ⟨fun _ => rfl, fun _ => rfl, List.suffix_rfl, rfl, fun _ h => h, Or.inl, fun _ _ => rfl⟩

theorem Relies.refl (self : Caller τ) (held : Bool) (world : World (Caller τ) ι) :
    Relies self held world world :=
  ⟨fun _ => rfl, fun _ => rfl, List.suffix_rfl, rfl, fun _ h => h, rfl⟩

theorem Relies.trans (hfirst : Relies self held world world') (hsecond : Relies self held world' world'') :
    Relies self held world world'' where
  keys := fun hheld => (hsecond.keys hheld).trans (hfirst.keys hheld)
  gates := fun hheld => (hsecond.gates hheld).trans (hfirst.gates hheld)
  grows := hfirst.grows.trans hsecond.grows
  enabled := hsecond.enabled.trans hfirst.enabled
  own := hsecond.own.trans hfirst.own
  force := by
    intro hsame hforce
    have hfront := resumes_mono hfirst.grows
    have hback := resumes_mono hsecond.grows
    exact hsecond.force (by omega) (hfirst.force (by omega) hforce)

theorem discipline_lawful (self : Caller τ) :
    (discipline self : Prog.Discipline (World (Caller τ) ι) (Query ι) Answer).Lawful where
  rely_refl := Relies.refl self
  rely_trans := Relies.trans
  guarantee_refl := Keeps.refl self

/-- What one thread keeps, another one relies on. -/
theorem discipline_compatible :
    Pool.Compatible (discipline (τ := τ) (ι := ι)) Invariant where
  lawful := discipline_lawful
  invariant_eq := fun _ => rfl
  answers := fun _ _ _ => trivial
  rely := by
    rintro t u held held' world world' hne hmutex (hkeeps : Keeps t held world world')
    show Relies u held' world world'
    have hfree : held' = true → held = false := by
      intro hheld'
      cases held with
      | false => rfl
      | true => exact absurd ⟨rfl, hheld'⟩ hmutex
    refine ⟨fun hheld' => hkeeps.keys (hfree hheld'), fun hheld' => hkeeps.gates (hfree hheld'),
      hkeeps.grows, hkeeps.enabled, ?_, hkeeps.others u (Ne.symm hne)⟩
    intro hsame hforce
    rcases hkeeps.force hforce with hkept | hresumed
    · exact hkept
    · omega

end Latch

end JdHoldings

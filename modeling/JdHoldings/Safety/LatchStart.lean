import JdHoldings.Automation.LiveStart
import JdHoldings.Orders.LiveProcess
import JdHoldings.Safety.LatchCalls

/-!
# What a start of the process keeps of the operator's halt

A start runs alone, before there is any thread.  It halts BUY and does not touch the
latch, so that it keeps the invariant wherever it dies (`Invariant.of_visits`); when it
comes through, BUY is halted on whatever database it began (`Started.of_runs`).
-/

namespace JdHoldings

namespace Latch

variable {τ ι α : Type}

/-- Every answer is possible. -/
def anyAnswer : (query : Query ι) → Answer query → Prop := fun _ _ => True

/-- What a write of a start does to the keys. -/
structure StartWrite (system system' : SystemState) : Prop where
  enabled : system.autoEnabled = some true → system'.autoEnabled = some true
  latch : system'.operatorHaltLatched = some true ↔ system.operatorHaltLatched = some true
  halt : system.operatorBuyHalt = some true → system'.operatorBuyHalt = some true

theorem StartWrite.of_keys {system system' : SystemState} (hkeys : system'.haltKeys = system.haltKeys)
    (henabled : system'.autoEnabled = system.autoEnabled) : StartWrite system system' := by
  have hlatch := congrArg HaltKeys.operatorHaltLatched hkeys
  have hhalt := congrArg HaltKeys.operatorBuyHalt hkeys
  exact ⟨henabled.trans, ⟨hlatch.symm.trans, hlatch.trans⟩, hhalt.trans⟩

/-- A missing latch gets the value of one that is not set. -/
theorem StartWrite.of_bootstrap {write : SystemState → SystemState}
    (hmem : write ∈ SystemState.bootstrapWrites) (system : SystemState) :
    StartWrite system (write system) := by
  have hdefault : ∀ {key : Option Bool}, (key <|> some false) = some true ↔ key = some true := by
    intro key
    cases key <;> simp
  simp only [SystemState.bootstrapWrites, List.mem_cons, List.not_mem_nil, or_false] at hmem
  rcases hmem with rfl | rfl | rfl | rfl | rfl | rfl | rfl | rfl | rfl | rfl | rfl | rfl | rfl | rfl |
    rfl | rfl
  · exact ⟨fun h => by simp [h], Iff.rfl, id⟩
  all_goals first
    | exact .of_keys rfl rfl
    | exact ⟨fun _ => rfl, Iff.rfl, id⟩
    | exact ⟨id, hdefault, id⟩

/-- A fact that no write of a start falsifies. -/
def StartStable (J : World (Caller τ) ι → Prop) : Prop :=
  ∀ world repo, StartWrite world.repo.system repo.system → J world → J (world.setRepo repo)

section Carries

variable {J : World (Caller τ) ι → Prop} {held : Bool}

theorem carries_startWrite (hstable : StartStable J) {write : SystemState → SystemState}
    (hwrite : ∀ system, StartWrite system (write system)) :
    Proc.Carries (Prog.alone anyAnswer) J held (setSystemValue write) :=
  .modify fun world _ hfact => ⟨trivial, trivial, hstable world _ (hwrite _) hfact⟩

theorem carries_bootstrap (hstable : StartStable J) :
    Proc.Carries (Prog.alone anyAnswer) J held bootstrapRepository := by
  have hwrites : ∀ {writes : List (SystemState → SystemState)},
      (∀ write ∈ writes, ∀ system, StartWrite system (write system)) →
        Proc.Carries (Prog.alone anyAnswer) J held (writeAll writes) := by
    intro writes hwrites
    induction writes with
    | nil => exact .of_quiet (Prog.alone_lawful _) (.pure ())
    | cons write rest ih =>
        refine .bind (carries_startWrite hstable (hwrites write List.mem_cons_self)) fun _ => ?_
        exact ih fun other hmem => hwrites other (List.mem_cons_of_mem _ hmem)
  exact hwrites fun _ hmem => StartWrite.of_bootstrap hmem

theorem carries_transact (hstable : StartStable J) {f : Repository ι → Py (Repository ι × α)}
    (hf : ∀ repo repo' value, f repo = .ok (repo', value) → StartWrite repo.system repo'.system) :
    Proc.Carries (Prog.alone anyAnswer) J held (transact f) := by
  refine ⟨fun world _ hfact => ⟨trivial, trivial, ?_⟩, fun _ => trivial⟩
  cases hresult : f world.repo with
  | error error =>
      have hfailed : ((f world.repo).map fun result => (world.setRepo result.1, result.2))
          = .error error := by
        rw [hresult]
        rfl
      rw [Proc.committed_error hfailed]
      exact hfact
  | ok result =>
      have hcommitted : ((f world.repo).map fun result => (world.setRepo result.1, result.2))
          = .ok (world.setRepo result.1, result.2) := by
        rw [hresult]
        rfl
      rw [Proc.committed_ok hcommitted]
      exact hstable world result.1 (hf world.repo result.1 result.2 hresult) hfact

variable [DecidableEq ι]

theorem carries_applyCoreFills (hstable : StartStable J) (clientOrderIds : List ι) :
    Proc.Carries (Prog.alone anyAnswer) J held (applyCoreFills clientOrderIds) := by
  induction clientOrderIds with
  | nil => exact .of_quiet (Prog.alone_lawful _) (.pure ())
  | cons clientOrderId rest ih =>
      refine .bind (carries_transact hstable fun repo repo' value hok => ?_) fun _ => ih
      cases hresult : repo.applyCoreFill clientOrderId with
      | error error =>
          simp only [hresult] at hok
          cases hok
      | ok booked =>
          simp only [hresult] at hok
          obtain ⟨rfl, -⟩ := Prod.mk.inj (Except.ok.inj hok)
          obtain ⟨order, symbol, -, -, -, rfl | ⟨row, -, rfl⟩⟩ := Repository.applyCoreFill_ok hresult
          · exact .of_keys rfl rfl
          · exact .of_keys rfl rfl

theorem carries_startHalted (held : Bool) (hstable : StartStable J) {reconciliation : ReconciliationRun ι}
    (hreconciliation : Elsewhere reconciliation) :
    Proc.Carries (Prog.alone anyAnswer) J held (startHalted reconciliation) := by
  have hlawful : (Prog.alone anyAnswer : Prog.Discipline (World (Caller τ) ι) (Query ι) Answer).Lawful :=
    Prog.alone_lawful _
  refine .bind (.of_quiet hlawful (quiet_readRepo _)) fun unapplied => ?_
  refine .bind (carries_applyCoreFills hstable unapplied) fun _ => ?_
  refine .bind (carries_bootstrap hstable) fun _ => .bind ?_ fun _ => ?_
  · refine .bind (carries_startWrite hstable fun _ => .of_keys rfl rfl) fun _ => ?_
    refine .bind (.of_quiet hlawful quiet_readSettings) fun view => ?_
    exact carries_startWrite hstable fun _ => .of_keys rfl rfl
  · refine .bind (carries_transact hstable fun repo repo' value hok => ?_) fun _ =>
      .of_quiet hlawful (.pure _)
    have hkept := keysKept_of_elsewhere hreconciliation hok
    exact .of_keys hkept.keys hkept.enabled

theorem carries_liveStart (held : Bool) (hstable : StartStable J) {reconciliation : ReconciliationRun ι}
    (hreconciliation : Elsewhere reconciliation) :
    Proc.Carries (Prog.alone anyAnswer) J held (liveStart reconciliation) := by
  refine .bind (carries_bootstrap hstable) fun _ => .bind ?_ fun _ =>
    carries_startHalted held hstable hreconciliation
  have hlawful : (Prog.alone anyAnswer : Prog.Discipline (World (Caller τ) ι) (Query ι) Answer).Lawful :=
    Prog.alone_lawful _
  refine .bind (.of_quiet hlawful (quiet_getSystemValue _)) fun commissioned => ?_
  refine .bind (.of_quiet hlawful (.raiseIf _ _)) fun _ => ?_
  exact carries_startWrite hstable fun _ => ⟨id, Iff.rfl, fun _ => rfl⟩

end Carries

/-! ## A start that dies -/

theorem startStable_invariant : StartStable (Invariant (τ := τ) (ι := ι)) := by
  intro world repo hwrite hinvariant
  refine hinvariant.setRepo (hwrite.enabled hinvariant.enabled) ?_ ?_
  · intro hforce
    obtain ⟨hhalt, hlatch⟩ := inForce_iff.mp hforce
    exact inForce_iff.mpr ⟨hwrite.halt hhalt, hwrite.latch.mpr hlatch⟩
  · exact fun hlatch => (hinvariant.latched (hwrite.latch.mp hlatch)).imp_left hwrite.halt

variable [DecidableEq ι]

theorem Invariant.of_visits {reconciliation : ReconciliationRun ι}
    (hreconciliation : Elsewhere reconciliation) {world world' : World (Caller τ) ι}
    (hinvariant : Invariant world)
    (hvisits : Prog.Visits anyAnswer (liveStart reconciliation) world world') : Invariant world' :=
  (carries_liveStart false startStable_invariant hreconciliation).visits hinvariant hvisits

/-! ## A start that comes through -/

/-- JH AUTO is installed, BUY is halted, and no thread has run yet. -/
structure Started (world : World (Caller τ) ι) : Prop where
  enabled : world.repo.system.autoEnabled = some true
  halted : world.repo.system.operatorBuyHalt = some true
  log : world.log = []

omit [DecidableEq ι] in
theorem startStable_started : StartStable (Started (τ := τ) (ι := ι)) :=
  fun _ _ hwrite hstarted =>
    ⟨hwrite.enabled hstarted.enabled, hwrite.halt hstarted.halted, hstarted.log⟩

omit [DecidableEq ι] in
theorem Started.invariant {world : World (Caller τ) ι} (hstarted : Started world) :
    Invariant world := by
  refine ⟨hstarted.enabled, fun _ => Or.inl hstarted.halted, ?_⟩
  intro thread later earlier _ hsplit _ _
  rw [hstarted.log] at hsplit
  exact absurd hsplit.symm (by simp)

omit [DecidableEq ι] in
/-- Run alone, the writes take effect one after the other. -/
private theorem wp_writeAll {ok : Bool → Unit → World (Caller τ) ι → Prop}
    {err : Bool → PyError → World (Caller τ) ι → Prop} {held : Bool}
    (writes : List (SystemState → SystemState)) :
    ∀ {world : World (Caller τ) ι},
      ok held () (world.setRepo (world.repo.setSystem
        (writes.foldl (fun system write => write system) world.repo.system))) →
      Proc.wp (Prog.alone anyAnswer) ok err (writeAll writes) held world := by
  induction writes with
  | nil => exact fun {world} hok => hok
  | cons write rest ih =>
      intro world hok
      refine Proc.wp_bind.mpr (Proc.wp_modify fun seen hsame _ => ?_)
      obtain rfl : seen = world := hsame
      exact ⟨trivial, trivial, ih hok⟩

theorem Started.of_runs {reconciliation : ReconciliationRun ι}
    (hreconciliation : Elsewhere reconciliation) {repo : Repository ι} {first : World (Caller τ) ι}
    (hruns : Prog.Runs anyAnswer (liveStart reconciliation) (World.start repo) first (.ok ())) :
    Started first := by
  have hlawful : (Prog.alone anyAnswer : Prog.Discipline (World (Caller τ) ι) (Query ι) Answer).Lawful :=
    Prog.alone_lawful _
  have hwp : Proc.wp (Prog.alone anyAnswer) (fun _ _ world => Started world) (fun _ _ _ => True)
      (liveStart reconciliation) false (World.start repo : World (Caller τ) ι) := by
    refine Proc.wp_bind.mpr (wp_writeAll _ ?_)
    rw [SystemState.bootstrapWrites_eq]
    refine Proc.wp_bind.mpr (Proc.wp_bind.mpr (Proc.wp_read hlawful fun seen hsame _ => ?_))
    obtain rfl := hsame
    refine Proc.wp_bind.mpr (Proc.wp_raiseIf (fun _ => ?_) fun _ => trivial)
    refine Proc.wp_modify fun armed hsame _ => ⟨trivial, trivial, ?_⟩
    obtain rfl := hsame
    have hstarts := carries_startHalted false (startStable_started (τ := τ)) hreconciliation
    refine hstarts.wp ⟨rfl, rfl, rfl⟩ ?_ (fun _ _ hstarted => hstarted) fun _ _ _ => trivial
    rintro state state' rfl hstarted
    exact hstarted
  obtain ⟨_, hstarted⟩ := Prog.wp_runs hwp hruns
  exact hstarted

end Latch

end JdHoldings

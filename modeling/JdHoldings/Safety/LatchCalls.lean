import JdHoldings.Safety.LatchSteps

/-!
# The calls that move the operator's halt

Four steps are not plain, and all four are taken under the lock: the write of the halt,
the write of the latch, the opening by a resume and the opening by a release.

* A halt writes both keys one after the other.  From the second write on what it has
  shut is in force, and it stays so through its cancellations and beyond its lock.
* A resume is the one call that may take the latch back.  When it does, BUY is open.
* A release opens BUY in a section that has seen the latch not set.
-/

namespace JdHoldings

namespace Latch

variable {τ ι α : Type} [DecidableEq τ] {self : Caller τ} {held : Bool}
  {world world' : World (Caller τ) ι}

/-! ## Moves of the halt -/

omit [DecidableEq τ] in
/-- One more event keeps what the halts have shut, if it is no return of a halt. -/
private theorem Invariant.standing_cons (hinvariant : Invariant world)
    {event : Event (Caller τ) ι} (hlog : world'.log = event :: world.log)
    (hreturned : ∀ thread, thread.2 = Call.halt → event ≠ .returned thread)
    (hforce : isResume event = false → InForce world → InForce world')
    {thread : Caller τ} {later earlier : List (Event (Caller τ) ι)} (hcall : thread.2 = Call.halt)
    (hsplit : world'.log = later ++ .closed thread :: earlier) (hmem : .returned thread ∈ later)
    (hnone : resumes later = 0) : InForce world' := by
  rw [hlog] at hsplit
  cases later with
  | nil => exact absurd hmem List.not_mem_nil
  | cons first rest =>
      obtain ⟨rfl, hrest⟩ := List.cons.inj hsplit
      have hold : .returned thread ∈ rest := by
        rcases List.mem_cons.mp hmem with hfirst | hrest
        · exact absurd hfirst.symm (hreturned thread hcall)
        · exact hrest
      have hfirst : isResume event = false := by
        by_contra hresume
        have : resumes (event :: rest) = resumes rest + 1 :=
          List.countP_cons_of_pos (Bool.of_not_eq_false hresume)
        omega
      have hzero : resumes rest = 0 := by
        have : resumes (event :: rest) = resumes rest :=
          List.countP_cons_of_neg (by simp [hfirst])
        omega
      exact hforce hfirst (hinvariant.standing thread rest earlier hcall hrest hold hzero)

omit [DecidableEq τ] in
theorem gates_cons {event : Event (Caller τ) ι} (hgate : isGate event = true)
    (log : List (Event (Caller τ) ι)) : gates (event :: log) = event :: gates log :=
  List.filter_cons_of_pos hgate

/-- The write of the halt. -/
theorem Invariant.shut (self : Caller τ) (hinvariant : Invariant world) :
    Keeps self true world ((world.setRepo (world.repo.setSystem
        { world.repo.system with operatorBuyHalt := some true })).record (.closed self)) ∧
      Invariant ((world.setRepo (world.repo.setSystem
        { world.repo.system with operatorBuyHalt := some true })).record (.closed self)) := by
  have hforce : InForce world → InForce ((world.setRepo (world.repo.setSystem
      { world.repo.system with operatorBuyHalt := some true })).record (.closed self)) := by
    intro hforce
    have hlatch := congrArg HaltKeys.operatorHaltLatched hforce
    exact congrArg (HaltKeys.mk (some true)) hlatch
  refine ⟨⟨fun h => Bool.noConfusion h, fun h => Bool.noConfusion h, List.suffix_cons _ _, rfl,
    fun _ h => h, fun h => Or.inl (hforce h), ?_⟩, hinvariant.enabled, fun _ => Or.inl rfl, ?_⟩
  · intro other hother
    refine List.countP_cons_of_neg ?_
    simpa [isClosingOf] using Ne.symm hother
  · intro thread later earlier hcall hsplit hmem hnone
    refine hinvariant.standing_cons rfl ?_ (fun _ => hforce) hcall hsplit hmem hnone
    intro _ _ hother
    cases hother

/-- The opening by a resume. -/
theorem Invariant.openByResume (hinvariant : Invariant world) (hcall : self.2 = Call.resume) :
    Keeps self true world ((world.setRepo (world.repo.setSystem
        { world.repo.system with operatorBuyHalt := some false })).record (.reopened self)) ∧
      Invariant ((world.setRepo (world.repo.setSystem
        { world.repo.system with operatorBuyHalt := some false })).record (.reopened self)) := by
  have hresume : isResume (.reopened self : Event (Caller τ) ι) = true := decide_eq_true hcall
  refine ⟨⟨nofun, nofun, List.suffix_cons _ _, rfl, ?_, fun _ => Or.inr ?_, fun _ _ => ?_⟩,
    hinvariant.enabled, fun _ => Or.inr ⟨_, _, gates_cons rfl _, hresume⟩, ?_⟩
  · exact fun hother => absurd hcall hother
  · show resumes world.log < resumes (.reopened self :: world.log)
    have : resumes (.reopened self :: world.log) = resumes world.log + 1 :=
      List.countP_cons_of_pos hresume
    omega
  · exact List.countP_cons_of_neg nofun
  · intro thread later earlier hhalt hsplit hmem hnone
    refine hinvariant.standing_cons rfl (fun _ _ => nofun) (fun hother => ?_) hhalt hsplit hmem hnone
    exact absurd (hresume.symm.trans hother) nofun

/-- The opening by a release that has seen the latch not set. -/
theorem Invariant.openByRelease (self : Caller τ) (hinvariant : Invariant world)
    (hfree : world.repo.system.operatorHaltLatched ≠ some true) :
    Keeps self true world ((world.setRepo (world.repo.setSystem
        { world.repo.system with operatorBuyHalt := some false })).record (.reopened self)) ∧
      Invariant ((world.setRepo (world.repo.setSystem
        { world.repo.system with operatorBuyHalt := some false })).record (.reopened self)) := by
  have hnot : ¬InForce world := by
    intro hforce
    exact hfree (congrArg HaltKeys.operatorHaltLatched hforce)
  refine ⟨⟨nofun, nofun, List.suffix_cons _ _, rfl, fun _ h => h, fun h => absurd h hnot, ?_⟩,
    hinvariant.enabled, fun h => absurd h hfree, ?_⟩
  · exact fun _ _ => List.countP_cons_of_neg nofun
  · intro thread later earlier hcall hsplit hmem hnone
    exact hinvariant.standing_cons rfl (fun _ _ => nofun) (fun _ h => absurd h hnot) hcall hsplit
      hmem hnone

omit [DecidableEq τ] in
/-- A write that notes nothing. -/
theorem Invariant.setRepo (hinvariant : Invariant world) {repo : Repository ι}
    (henabled : repo.system.autoEnabled = some true)
    (hforce : InForce world → InForce (world.setRepo repo))
    (hlatched : repo.system.operatorHaltLatched = some true →
      repo.system.operatorBuyHalt = some true ∨ ResumedLast world.log) :
    Invariant (world.setRepo repo) := by
  refine ⟨henabled, hlatched, ?_⟩
  intro thread later earlier hcall hsplit hmem hnone
  exact hforce (hinvariant.standing thread later earlier hcall hsplit hmem hnone)

/-- A write of the keys under the lock that notes nothing. -/
theorem Invariant.rewrite (self : Caller τ) (hinvariant : Invariant world) (repo : Repository ι)
    (henabled : repo.system.autoEnabled = world.repo.system.autoEnabled)
    (hlatch : self.2 ≠ Call.resume → world.repo.system.operatorHaltLatched = some true →
      repo.system.operatorHaltLatched = some true)
    (hforce : InForce world → InForce (world.setRepo repo))
    (hlatched : repo.system.operatorHaltLatched = some true →
      repo.system.operatorBuyHalt = some true ∨ ResumedLast world.log) :
    Keeps self true world (world.setRepo repo) ∧ Invariant (world.setRepo repo) := by
  refine ⟨⟨nofun, nofun, List.suffix_rfl, henabled, hlatch, fun h => Or.inl (hforce h),
    fun _ _ => rfl⟩, ?_⟩
  exact hinvariant.setRepo (henabled.trans hinvariant.enabled) hforce hlatched

/-! ## Facts about the keys under the lock -/

/-- The holder of the lock finds the halt as it left it. -/
theorem Relies.halt (hrely : Relies self true world world') :
    world'.repo.system.operatorBuyHalt = world.repo.system.operatorBuyHalt :=
  congrArg HaltKeys.operatorBuyHalt (hrely.keys rfl)

theorem Relies.latch (hrely : Relies self true world world') :
    world'.repo.system.operatorHaltLatched = world.repo.system.operatorHaltLatched :=
  congrArg HaltKeys.operatorHaltLatched (hrely.keys rfl)

omit [DecidableEq τ] in
theorem inForce_iff : InForce world ↔ world.repo.system.operatorBuyHalt = some true ∧
    world.repo.system.operatorHaltLatched = some true := by
  refine ⟨fun hforce => ?_, fun ⟨hhalt, hlatch⟩ => ?_⟩
  · exact ⟨congrArg HaltKeys.operatorBuyHalt hforce, congrArg HaltKeys.operatorHaltLatched hforce⟩
  · unfold InForce SystemState.haltKeys
    rw [hhalt, hlatch]

/-- What the thread has shut stays in force while the others move. -/
theorem Standing.of_relies (hstanding : Standing self world) (hrely : Relies self held world world') :
    Standing self world' := by
  intro later earlier hsplit hnone
  obtain ⟨new, hnew⟩ := hrely.grows
  have hown : closings self new = 0 := by
    have hsame := hrely.own
    rw [← hnew] at hsame
    have happend : closings self (new ++ world.log) = closings self new + closings self world.log :=
      List.countP_append
    omega
  rw [← hnew] at hsplit
  obtain ⟨rest, rfl, hrest⟩ := split_of_notMem hsplit (notMem_closed hown)
  rw [resumes_append] at hnone
  have hsame : resumes world'.log = resumes world.log := by
    rw [← hnew, resumes_append]
    omega
  exact hrely.force hsame (hstanding rest earlier hrest (by omega))

omit [DecidableEq τ] in
/-- What the thread has shut stays in force while it takes notes. -/
theorem noteStable_standing (self : Caller τ) : NoteStable (Standing (ι := ι) self) := by
  intro world event hplain hstanding later earlier hsplit hnone
  have hlog : [event] ++ world.log = later ++ .closed self :: earlier := hsplit
  have hnew : .closed self ∉ [event] := by
    intro hmem
    rw [← List.mem_singleton.mp hmem] at hplain
    cases hplain
  obtain ⟨rest, rfl, hrest⟩ := split_of_notMem hlog hnew
  rw [resumes_append] at hnone
  exact hstanding rest earlier hrest (by omega)

/-! ## Halting -/

section Calls

variable [DecidableEq ι]

open OperatorSafetyService

/-- From the write of the latch on, what the halt has shut is in force. -/
theorem wp_haltSection {ok : Bool → Unit → World (Caller τ) ι → Prop}
    {err : Bool → PyError → World (Caller τ) ι → Prop}
    (hok : ∀ world', Standing self world' → ok true () world')
    (herr : ∀ error world', Standing self world' → err true error world') :
    Proc.wp (discipline self) ok err (haltSection self) true world := by
  have hlawful := discipline_lawful (ι := ι) self
  refine Proc.wp_bind.mpr (Proc.wp_modify fun shut _ hinvariant => ?_)
  obtain ⟨hkeeps, hkept⟩ := hinvariant.shut self
  refine ⟨hkeeps, hkept, ?_⟩
  refine Proc.wp_bind.mpr (Proc.wp_bind.mpr (Proc.wp_read hlawful fun seen hrely hseen => ?_))
  have hhalted : seen.repo.system.operatorBuyHalt = some true := hrely.halt
  have henabled : decide (seen.repo.system.autoEnabled = some true) = true :=
    decide_eq_true hseen.enabled
  refine (Proc.wp_pure _).mpr (Proc.wp_bind.mpr ?_)
  simp only [Proc.when, henabled, if_true]
  refine Proc.wp_modify fun latched hrely hinvariant => ?_
  have hboth : InForce (latched.setRepo (latched.repo.setSystem
      { latched.repo.system with operatorHaltLatched := some true })) :=
    inForce_iff.mpr ⟨hrely.halt.trans hhalted, rfl⟩
  obtain ⟨hkeeps, hkept⟩ := hinvariant.rewrite self
    (latched.repo.setSystem { latched.repo.system with operatorHaltLatched := some true })
    rfl (fun _ _ => rfl) (fun _ => hboth) fun _ => Or.inl (hrely.halt.trans hhalted)
  refine ⟨hkeeps, hkept, ?_⟩
  have hcancels : Proc.Carries (discipline self) (Standing self) true
      (do let orders ← openBuys; cancelOpenBuys self orders : Action (Caller τ) ι Unit) :=
    carries_of_notes (noteStable_standing self)
      (.bind (atoms_of_quiet (quiet_readRepo _)) fun orders => atoms_cancelOpenBuys orders)
  exact hcancels.wp (fun _ _ _ _ => hboth) (fun _ _ hrely h => h.of_relies hrely)
    (fun _ world' h => hok world' h) fun error world' h => herr error world' h

omit [DecidableEq ι] in
/-- The note that a halt has returned. -/
theorem Invariant.returned (held : Bool) (hinvariant : Invariant world)
    (hstanding : Standing self world) :
    Keeps self held world (world.record (.returned self)) ∧
      Invariant (world.record (.returned self)) := by
  have hgates : gates (world.record (.returned self)).log = gates world.log := rfl
  refine ⟨⟨fun _ => rfl, fun _ => hgates, List.suffix_cons _ _, rfl, fun _ h => h, Or.inl,
    fun _ _ => List.countP_cons_of_neg nofun⟩, hinvariant.enabled, ?_, ?_⟩
  · intro hlatched
    rcases hinvariant.latched hlatched with hhalted | ⟨event, rest, hlast, hresume⟩
    · exact Or.inl hhalted
    · exact Or.inr ⟨event, rest, hgates.trans hlast, hresume⟩
  · intro thread later earlier hcall hsplit hmem hnone
    cases later with
    | nil => exact absurd hmem List.not_mem_nil
    | cons first rest =>
        obtain ⟨rfl, hrest⟩ := List.cons.inj hsplit
        have hsame : resumes (.returned self :: rest) = resumes rest :=
          List.countP_cons_of_neg nofun
        have hzero : resumes rest = 0 := hsame.symm.trans hnone
        rcases List.mem_cons.mp hmem with hfirst | hold
        · obtain rfl := Event.returned.inj hfirst
          exact hstanding rest earlier hrest hzero
        · exact hinvariant.standing thread rest earlier hcall hrest hold hzero

theorem safe_halt : Proc.Safe (discipline (ι := ι) self) (halt self) := by
  intro world
  refine Proc.wp_bind.mpr (Proc.wp_withLock fun locked _ => wp_haltSection ?_ ?_)
  · intro ended hstanding
    refine ⟨rfl, fun free hrely => Proc.wp_modify fun noted hrely' hinvariant => ?_⟩
    have hnoted : Standing self noted := (hstanding.of_relies hrely).of_relies hrely'
    obtain ⟨hkeeps, hkept⟩ := hinvariant.returned false hnoted
    exact ⟨hkeeps, hkept, rfl⟩
  · exact fun _ _ _ => ⟨rfl, fun _ _ => rfl⟩

/-! ## Resuming -/

/-- A transaction of another service that leaves the installed AUTO alone as well. -/
def Elsewhere (f : Repository ι → Py (Repository ι × α)) : Prop :=
  JdHoldings.Elsewhere f ∧ ∀ repo repo' value, f repo = .ok (repo', value) →
    repo'.system.autoEnabled = repo.system.autoEnabled

theorem keysKept_of_elsewhere {f : Repository ι → Py (Repository ι × α)}
    (helsewhere : Elsewhere f) {repo repo' : Repository ι} {value : α}
    (hok : f repo = .ok (repo', value)) : KeysKept repo repo' := by
  obtain ⟨-, hboundary⟩ := helsewhere.1 repo repo' value hok
  refine ⟨?_, helsewhere.2 repo repo' value hok⟩
  have hhalt := congrArg BoundaryKeys.operatorBuyHalt hboundary
  have hlatch := congrArg BoundaryKeys.operatorHaltLatched hboundary
  exact congrArg₂ HaltKeys.mk hhalt hlatch

theorem tame_elsewhere {f : Repository ι → Py (Repository ι × α)} (helsewhere : Elsewhere f) :
    Proc.Tame (discipline self) held (transact f) :=
  tame_transact fun _ _ _ hok => keysKept_of_elsewhere helsewhere hok

omit [DecidableEq ι] in
theorem tame_recoverPosition (symbol : EnabledSymbol) (recovery : Recovery) :
    Proc.Tame (discipline (ι := ι) self) held (recoverPosition symbol recovery) := by
  cases recovery with
  | running => exact tame_of_quiet (.pure ())
  | blocked => exact tame_of_quiet (.pure ())
  | recoverable =>
      refine tame_onRepo fun repo repo' hok => ?_
      rw [Repository.transitionPosition_ok hok]
      exact .of_system rfl

omit [DecidableEq ι] in
theorem tame_recoverCleanReconciliationSafeMode :
    Proc.Tame (discipline (ι := ι) self) held recoverCleanReconciliationSafeMode := by
  refine .bind (tame_of_quiet (quiet_inspectSafeMode _)) fun tqqq => ?_
  refine .bind (tame_of_quiet (quiet_inspectSafeMode _)) fun soxl => ?_
  refine .ite (fun _ => tame_of_quiet (.pure _)) fun _ => ?_
  refine .bind (tame_recoverPosition _ _) fun _ => .bind (tame_recoverPosition _ _) fun _ => ?_
  refine .bind (tame_of_quiet (quiet_getSystemValue _)) fun flag => ?_
  refine .bind (.when (discipline_lawful self) ?_) fun _ => tame_of_quiet (.pure _)
  exact tame_setSystemValue (fun _ => rfl) fun _ => rfl

theorem tame_proveClean {reconciliation : ReconciliationRun ι}
    (hreconciliation : Elsewhere reconciliation) :
    Proc.Tame (discipline self) held (proveClean reconciliation) := by
  refine .bind (tame_elsewhere hreconciliation) fun _ => ?_
  refine .bind (tame_of_quiet (.raiseIf _ _)) fun _ => ?_
  refine .bind tame_recoverCleanReconciliationSafeMode fun _ => ?_
  refine .bind (tame_of_quiet (.raiseIf _ _)) fun _ => tame_of_quiet ?_
  refine .bind quiet_safeModeReasons fun _ => .bind (.raiseIf _ _) fun _ => ?_
  exact .bind (quiet_readRepo _) fun _ => .raiseIf _ _

omit [DecidableEq ι] in
/-- The temporary halt of a resume. -/
theorem tame_haltForResume :
    Proc.Tame (discipline (ι := ι) self) true
      (setSystemValue fun system => { system with operatorBuyHalt := some true }) := by
  refine .modify fun world hinvariant => hinvariant.rewrite self _ rfl (fun _ h => h) ?_ fun _ => Or.inl rfl
  exact fun hforce => inForce_iff.mpr ⟨rfl, (inForce_iff.mp hforce).2⟩

/-- The latch is taken back while BUY is open. -/
theorem wp_resumeSection (hcall : self.2 = Call.resume) :
    Proc.wp (discipline (ι := ι) self) (fun held _ _ => held = true) (fun held _ _ => held = true)
      (resumeSection self) true world := by
  have hlawful := discipline_lawful (ι := ι) self
  refine Proc.wp_bind.mpr ((quiet_readRepo _).wp hlawful (fun openBuys _ _ => ?_) fun _ _ _ => rfl)
  refine Proc.wp_bind.mpr (Proc.wp_raiseIf (fun _ => ?_) fun _ => rfl)
  refine Proc.wp_bind.mpr (quiet_safeModeReasons.wp hlawful (fun reasons _ _ => ?_) fun _ _ _ => rfl)
  refine Proc.wp_bind.mpr (Proc.wp_raiseIf (fun _ => ?_) fun _ => rfl)
  refine Proc.wp_bind.mpr (Proc.wp_modify fun opened _ hinvariant => ?_)
  obtain ⟨hkeeps, hkept⟩ := hinvariant.openByResume hcall
  refine ⟨hkeeps, hkept, ?_⟩
  refine Proc.wp_bind.mpr (quiet_autoIsEnabled.wp hlawful (fun enabled seen hrely => ?_)
    fun _ _ _ => rfl)
  have hopen : seen.repo.system.operatorBuyHalt = some false := hrely.halt
  unfold Proc.when
  split
  · refine Proc.wp_modify fun latched hrely hinvariant => ?_
    have hnot : ¬InForce latched := by
      intro hforce
      have hhalt := (inForce_iff.mp hforce).1
      rw [hrely.halt, hopen] at hhalt
      cases hhalt
    obtain ⟨hkeeps, hkept⟩ := hinvariant.rewrite self
      (latched.repo.setSystem
        { latched.repo.system with operatorHaltLatched := some false })
      rfl (fun hother => absurd hcall hother) (fun h => absurd h hnot) nofun
    exact ⟨hkeeps, hkept, rfl⟩
  · rfl

theorem safe_resume {reconciliation : ReconciliationRun ι}
    (hreconciliation : Elsewhere reconciliation) (hcall : self.2 = Call.resume) :
    Proc.Safe (discipline self) (resume self reconciliation) := by
  have hlawful := discipline_lawful (ι := ι) self
  refine .bind (.of_quiet hlawful (quiet_getSystemValue _)) fun halt => ?_
  refine .bind (.of_quiet hlawful quiet_autoIsEnabled) fun enabled => ?_
  refine .bind (.of_quiet hlawful (quiet_getSystemValue _)) fun latch => ?_
  refine .bind (.of_quiet hlawful quiet_safeModeReasons) fun reasons => ?_
  refine .ite (.of_quiet hlawful (.pure ())) ?_
  refine .bind (.when hlawful (.withLock tame_haltForResume)) fun _ => ?_
  refine .bind (.of_tame (tame_proveClean hreconciliation)) fun _ world => ?_
  refine Proc.wp_withLock fun locked _ => Proc.wp_mono (wp_resumeSection hcall) ?_ ?_
  · exact fun _ _ _ hheld => ⟨hheld, fun _ _ => rfl⟩
  · exact fun _ _ _ hheld => ⟨hheld, fun _ _ => rfl⟩

/-! ## The quarantine -/

omit [DecidableEq ι] in
theorem tame_setAutoState (state : AutoState) :
    Proc.Tame (discipline (ι := ι) self) held (setAutoState state) :=
  tame_setSystemValue (fun _ => rfl) fun _ => rfl

omit [DecidableEq ι] in
/-- A quarantine is no halt: its return promises nothing about the latch. -/
theorem safe_quarantine (hcall : self.2 ≠ Call.halt) :
    Proc.Safe (discipline (ι := ι) self) (JHAutoService.quarantine self) := by
  have hplain : isPlain (.returned self : Event (Caller τ) ι) = true := decide_eq_true hcall
  refine .bind (.withLock ?_) fun _ => .of_tame (carries_of_notes (fun _ _ _ h => h) (atoms_record hplain)).tame
  refine .bind (tame_setSystemValue (fun _ => rfl) fun _ => rfl) fun _ => ?_
  refine .bind (tame_setAutoState _) fun _ => .modify fun world hinvariant => hinvariant.shut self

omit [DecidableEq ι] in
/-- The latch is looked at under the lock, and stays what it was seen to be. -/
theorem wp_releaseSection :
    Proc.wp (discipline (ι := ι) self) (fun held _ _ => held = true) (fun held _ _ => held = true)
      (JHAutoService.releaseSection self) true world := by
  have hlawful := discipline_lawful (ι := ι) self
  refine Proc.wp_bind.mpr (Proc.wp_read hlawful fun seen _ _ => ?_)
  split
  · have hstop : Proc.Tame (discipline (ι := ι) self) true
        (do setAutoState .operatorHalt; return false) :=
      .bind (tame_setAutoState _) fun _ => tame_of_quiet (.pure _)
    exact hstop.wp (fun _ _ => rfl) fun _ _ => rfl
  · rename_i hfree
    refine Proc.wp_bind.mpr (quiet_portfolioIsInSafeMode.wp hlawful (fun safeMode looked hrely => ?_)
      fun _ _ _ => rfl)
    refine Proc.wp_bind.mpr ((quiet_readRepo _).wp hlawful (fun openOrders counted hrely' => ?_)
      fun _ _ _ => rfl)
    split
    · rfl
    · refine Proc.wp_bind.mpr (Proc.wp_modify fun opened hrely'' hinvariant => ?_)
      have hlatch : opened.repo.system.operatorHaltLatched ≠ some true := by
        rw [hrely''.latch, hrely'.latch, hrely.latch]
        exact hfree
      obtain ⟨hkeeps, hkept⟩ := hinvariant.openByRelease self hlatch
      refine ⟨hkeeps, hkept, ?_⟩
      have hrest : Proc.Tame (discipline (ι := ι) self) true
          (do
            setSystemValue fun system => { system with startupQuarantine := some false }
            setAutoState .running
            return true) :=
        .bind (tame_setSystemValue (fun _ => rfl) fun _ => rfl) fun _ =>
          .bind (tame_setAutoState _) fun _ => tame_of_quiet (.pure _)
      exact hrest.wp (fun _ _ => rfl) fun _ _ => rfl

omit [DecidableEq ι] in
theorem safe_tryReleaseQuarantine (safetyReady : Bool) :
    Proc.Safe (discipline (ι := ι) self)
      (HardenedProductionJHAutoService.tryReleaseQuarantine self safetyReady) := by
  have hlawful := discipline_lawful (ι := ι) self
  have hstate : ∀ state, Proc.Safe (discipline (ι := ι) self)
      (do setAutoState state; return false) := fun state =>
    .bind (.of_tame (tame_setAutoState state)) fun _ => .of_quiet hlawful (.pure _)
  refine .bind (.of_quiet hlawful quiet_readSettings) fun view => ?_
  refine .bind (.when hlawful (.of_quiet hlawful (quiet_validateCapitalContract _))) fun _ => ?_
  refine .bind (.of_quiet hlawful quiet_readSettings) fun view => ?_
  refine .ite (hstate _) (.ite (hstate _) ?_)
  refine .bind (.of_quiet hlawful quiet_portfolioIsInSafeMode) fun safeMode => .ite (hstate _) ?_
  refine .bind (.of_quiet hlawful (quiet_readRepo _)) fun openOrders => ?_
  refine .ite (.of_quiet hlawful (.pure _)) fun world => Proc.wp_withLock fun locked _ => ?_
  refine Proc.wp_mono wp_releaseSection ?_ ?_
  · exact fun _ _ _ hheld => ⟨hheld, fun _ _ => rfl⟩
  · exact fun _ _ _ hheld => ⟨hheld, fun _ _ => rfl⟩

/-! ## An operator change -/

/-- A change of the capital neither opens BUY nor touches the latch. -/
theorem safe_atomicAutoChange {config : StrategyConfig} {env : AutoEnvironment ι} {op : CapitalOp}
    (hreconciliation : Elsewhere env.reconciliation.run) :
    Proc.Safe (discipline self) (atomicAutoChange config env op) := by
  refine .withLock (.transaction (discipline_lawful self) fun world world' value hinvariant hok => ?_)
  cases hexec : op.exec config env world.repo with
  | error error =>
      simp only [hexec] at hok
      cases hok
  | ok repo' =>
      simp only [hexec] at hok
      obtain ⟨rfl, -⟩ := Prod.mk.inj (Except.ok.inj hok)
      obtain ⟨checked, hchecked, hsame⟩ := Repository.SameOperator.of_capitalOp hexec
      have hbefore : KeysKept world.repo checked := by
        rcases hchecked with rfl | ⟨-, -, mismatches, hrun⟩
        · exact .of_system rfl
        · exact keysKept_of_elsewhere hreconciliation hrun
      have hlatch : repo'.system.operatorHaltLatched = world.repo.system.operatorHaltLatched :=
        hsame.latch.trans (congrArg HaltKeys.operatorHaltLatched hbefore.keys)
      have hhalt : world.repo.system.operatorBuyHalt = some true →
          repo'.system.operatorBuyHalt = some true := fun h =>
        hsame.halted ((congrArg HaltKeys.operatorBuyHalt hbefore.keys).trans h)
      refine hinvariant.rewrite self _ (hsame.enabled.trans hbefore.enabled) ?_ ?_ ?_
      · exact fun _ hlatched => hlatch.trans hlatched
      · intro hforce
        obtain ⟨hhalted, hlatched⟩ := inForce_iff.mp hforce
        exact inForce_iff.mpr ⟨hhalt hhalted, hlatch.trans hlatched⟩
      · intro hlatched
        exact (hinvariant.latched (hlatch.symm.trans hlatched)).imp_left hhalt

end Calls

end Latch

end JdHoldings

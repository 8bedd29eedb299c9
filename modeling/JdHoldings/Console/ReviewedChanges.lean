import JdHoldings.Capital.Contract
import JdHoldings.Infrastructure.JhAutoTelegram
import JdHoldings.Library.Pool

/-!
# Changes are applied as they were reviewed

A review and its confirmation are minutes apart.  In between other threads trade, book, halt
and move capital, and the operator may ask for other reviews, cancel them or restart the
process.

Two facts carry the argument.  What a confirmation applies is a function of the request and of
the delegation alone (`Reviewed.applied`), and the delegation is written under the lock only.
So the comparison at the start of a confirmation decides for its whole section, although the
reconciliation in the middle of it writes the ledger.
-/

namespace JdHoldings

variable {ι : Type}

/-! ## What an operator change writes -/

theorem configuration_of_flow {config : StrategyConfig} {quotes : Quotes}
    {repo repo' : Repository ι} {requested : Decimal} {event : CapitalEvent}
    (hok : ProductionJHAutoService.applyExternalFlow config quotes repo requested event
      = .ok repo') :
    repo'.system.capital.configuration = repo.system.capital.configuration := by
  unfold ProductionJHAutoService.applyExternalFlow at hok
  split at hok
  · rcases JHAutoService.applyExternalFlow_ok hok with ⟨-, rfl⟩ | ⟨-, preEquity, nav, -, rfl⟩ <;> rfl
  · rcases JHAutoService.applyExternalFlow_ok hok with ⟨-, rfl⟩ | ⟨-, preEquity, nav, -, rfl⟩ <;> rfl

theorem configuration_of_retarget {config : StrategyConfig} {env : AutoEnvironment ι}
    {repo repo' : Repository ι} {before : AutoSettings} {newTarget : Decimal}
    (hok : JHAutoService.retargetLivePrincipal config env repo before newTarget = .ok repo') :
    repo'.system.capital.configuration = repo.system.capital.configuration := by
  unfold JHAutoService.retargetLivePrincipal at hok
  split at hok
  · obtain rfl := Except.ok.inj hok
    rfl
  · split at hok
    · have hsame := configuration_of_flow hok
      exact hsame
    · split at hok
      · obtain rfl := Except.ok.inj hok
        rfl
      · have hsame := configuration_of_flow hok
        exact hsame

/-- The base, the ratio and the target of an account. -/
structure AutoSettings.Configures (settings : AutoSettings) (newBase newRatio : Option Decimal) :
    Prop where
  baseCapital : settings.baseCapital = newBase
  ratio : settings.ratio = newRatio
  targetPrincipal : settings.targetPrincipal = JdHoldings.targetPrincipal newBase newRatio

/-- The configuration a change is committed with, whoever moves the principal afterwards. -/
private theorem configures_of_configuration {system system' : SystemState} {base ratio : Option Decimal}
    (hsame : system'.capital.configuration = CapitalKeys.configuration { system with
      baseCapital := base
      ratio := ratio
      targetPrincipal := some (targetPrincipal base ratio) : SystemState }.capital) :
    system'.settings.Configures base ratio := by
  simp only [CapitalKeys.configuration, Prod.mk.injEq] at hsame
  obtain ⟨-, -, hbase, hratio, htarget, -⟩ := hsame
  exact ⟨hbase, hratio, congrArg (fun target => Option.getD target 0) htarget⟩

private theorem JHAutoService.setOperatorConfig_configures {config : StrategyConfig}
    {env : AutoEnvironment ι} {repo repo' : Repository ι} {base ratio : Option Decimal}
    (hok : JHAutoService.setOperatorConfig config env repo base ratio = .ok repo') :
    repo'.system.settings.Configures (base <|> repo.system.settings.baseCapital)
      (ratio <|> repo.system.settings.ratio) := by
  simp only [JHAutoService.setOperatorConfig, Except.bind_eq_ok] at hok
  obtain ⟨_, -, _, -, hok⟩ := hok
  split at hok
  · have hsame := configuration_of_retarget hok
    exact configures_of_configuration hsame
  · obtain rfl := Except.ok.inj hok
    exact ⟨rfl, rfl, rfl⟩

/-- An operator change sets what it is asked for and keeps the other of the two. -/
theorem setOperatorConfig_configures {config : StrategyConfig} {env : AutoEnvironment ι}
    {repo repo' : Repository ι} {base ratio : Option Decimal}
    (hok : FinalOpsProductionJHAutoService.setOperatorConfig config env repo base ratio = .ok repo') :
    repo'.system.settings.Configures (base <|> repo.system.settings.baseCapital)
      (ratio <|> repo.system.settings.ratio) := by
  simp only [FinalOpsProductionJHAutoService.setOperatorConfig, Except.bind_eq_ok] at hok
  obtain ⟨hardened, hhardened, hresult⟩ := hok
  have hset : hardened.system.settings.Configures (base <|> repo.system.settings.baseCapital)
      (ratio <|> repo.system.settings.ratio) := by
    unfold HardenedProductionJHAutoService.setOperatorConfig at hhardened
    split at hhardened
    · simp only [Except.bind_eq_ok] at hhardened
      obtain ⟨updated, hupdated, _, -, hclosed⟩ := hhardened
      obtain rfl := Except.ok.inj hclosed
      have hconfigures := JHAutoService.setOperatorConfig_configures hupdated
      exact ⟨hconfigures.baseCapital, hconfigures.ratio, hconfigures.targetPrincipal⟩
    · simp only [Except.bind_eq_ok] at hhardened
      obtain ⟨updated, hupdated, _, -, hsame⟩ := hhardened
      obtain rfl := Except.ok.inj hsame
      exact JHAutoService.setOperatorConfig_configures hupdated
  split at hresult
  · obtain rfl := Except.ok.inj hresult
    exact ⟨hset.baseCapital, hset.ratio, hset.targetPrincipal⟩
  · obtain rfl := Except.ok.inj hresult
    exact hset

/-! ## What a launch writes -/

/-- A flow opens the principal that was asked for. -/
theorem effectivePrincipal_of_flow {config : StrategyConfig} {quotes : Quotes}
    {repo repo' : Repository ι} {requested : Decimal} {event : CapitalEvent}
    (hok : ProductionJHAutoService.applyExternalFlow config quotes repo requested event
      = .ok repo') (hgrid : Quantize.OnGrid cent requested) (hpos : 0 ≤ requested) :
    repo'.system.settings.effectivePrincipal = requested := by
  have hnew : max 0 (Quantize.halfEven cent requested) = requested := by
    rw [Quantize.halfEven_of_onGrid cent_pos hgrid, max_eq_right hpos]
  unfold ProductionJHAutoService.applyExternalFlow at hok
  split at hok
  all_goals
    have hspec := JHAutoService.applyExternalFlow_ok hok
    simp only [hnew] at hspec
    rcases hspec with ⟨hsame, rfl⟩ | ⟨-, preEquity, nav, -, rfl⟩
    · exact hsame.symm
    · rfl

/-- The first launch opens half of the target and keeps what the operator has set. -/
structure AutoSettings.Launched (settings before : AutoSettings) : Prop where
  launchAuthorized : settings.launchAuthorized = true
  baseCapital : settings.baseCapital = before.baseCapital
  ratio : settings.ratio = before.ratio
  targetPrincipal : settings.targetPrincipal = before.targetPrincipal
  effectivePrincipal :
    settings.effectivePrincipal = Quantize.down cent (before.targetPrincipal * (1 / 2))

theorem authorizeLaunch_launched {config : StrategyConfig} {env : AutoEnvironment ι}
    {repo repo' : Repository ι}
    (hok : FinalOpsProductionJHAutoService.authorizeLaunch config env repo = .ok repo')
    (hfirst : repo.system.settings.launchAuthorized = false) :
    repo'.system.settings.Launched repo.system.settings := by
  simp only [FinalOpsProductionJHAutoService.authorizeLaunch, Except.bind_eq_ok] at hok
  obtain ⟨launched, hlaunched, hresult⟩ := hok
  have hsettings : launched.system.settings.Launched repo.system.settings := by
    simp only [JHAutoService.authorizeLaunch, Except.bind_eq_ok] at hlaunched
    obtain ⟨checked, hpreflight, hlaunched⟩ := hlaunched
    obtain ⟨hcapital, hconfigured⟩ := JHAutoService.preflightLaunch_ok hpreflight
    have hnot : checked.system.settings.launchAuthorized = false := by
      rw [← hfirst]
      exact congrArg (fun keys => decide (CapitalKeys.launchAuthorized keys = some true)) hcapital
    have htarget : checked.system.settings.targetPrincipal =
        repo.system.settings.targetPrincipal :=
      congrArg (fun keys => (CapitalKeys.targetPrincipal keys).getD 0) hcapital
    rw [hnot, htarget] at hlaunched
    simp only [Bool.false_eq_true, if_false] at hlaunched
    have hpositive : 0 < repo.system.settings.targetPrincipal := by
      simp only [AutoSettings.configured, Bool.and_eq_true, decide_eq_true_eq] at hconfigured
      exact hconfigured.2
    have hsame := configuration_of_flow hlaunched
    simp only [CapitalKeys.configuration, Prod.mk.injEq] at hsame
    obtain ⟨-, -, hsameBase, hsameRatio, hsameTarget, hsameLaunch⟩ := hsame
    refine ⟨?_, ?_, ?_, ?_, ?_⟩
    · exact decide_eq_true hsameLaunch
    · exact hsameBase.trans (congrArg CapitalKeys.baseCapital hcapital)
    · exact hsameRatio.trans (congrArg CapitalKeys.ratio hcapital)
    · exact (congrArg (fun target => Option.getD target 0) hsameTarget).trans htarget
    · refine effectivePrincipal_of_flow hlaunched (Quantize.down_onGrid _ _) ?_
      exact Quantize.down_nonneg cent_pos (by linarith)
  split at hresult
  · obtain rfl := Except.ok.inj hresult
    exact ⟨hsettings.launchAuthorized, hsettings.baseCapital, hsettings.ratio,
      hsettings.targetPrincipal, hsettings.effectivePrincipal⟩
  · obtain rfl := Except.ok.inj hresult
    exact hsettings

/-! ## What a review shows -/

/-- The review was computed from an account with this delegation. -/
def ShownReview.Honest (review : ShownReview) : Prop :=
  ∃ settings : AutoSettings, settings.delegation = review.state.toDelegation ∧
    settings.review review.change = .ok review.shown

/-- The request waits for an answer to the review. -/
structure ShownReview.Asks (review : ShownReview) (item : PendingAutoChange) : Prop where
  number : review.number = item.review
  change : review.change = item.change
  created : review.createdMonotonic = item.createdMonotonic
  state : review.state = item.settingsState

/-- The settings are what the review showed, and nothing it did not show has changed. -/
def ShownReview.Describes (review : ShownReview) (after : AutoSettings) : Prop :=
  match review.shown with
  | .capital current proposed newTarget =>
      current = review.state.baseCapital.getD 0 ∧ after.baseCapital = some proposed ∧
        after.ratio = review.state.ratio ∧ after.targetPrincipal = newTarget
  | .ratio currentPercent proposedPercent newTarget =>
      currentPercent = (review.state.ratio.map fun ratio => ratio * 100).getD 0 ∧
        after.ratioPercent = some proposedPercent ∧
        after.baseCapital = review.state.baseCapital ∧ after.targetPrincipal = newTarget
  | .start base ratioPercent target firstPrincipal =>
      base = review.state.baseCapital.getD 0 ∧
        ratioPercent = (review.state.ratio.map fun ratio => ratio * 100).getD 0 ∧
        after.launchAuthorized = true ∧ after.baseCapital = some base ∧
        after.ratioPercent = some ratioPercent ∧ after.targetPrincipal = target ∧
        after.effectivePrincipal = firstPrincipal

/-- A ratio that is not set counts as zero, and so does the target. -/
theorem targetPrincipal_ratio_getD (base : Decimal) (ratio : Option Decimal) :
    targetPrincipal (some base) (some (ratio.getD 0)) = targetPrincipal (some base) ratio := by
  cases ratio with
  | none => norm_num [targetPrincipal, Quantize.down, Quantize.roundDown]
  | some ratio => rfl

theorem targetPrincipal_base_getD (base : Option Decimal) (ratio : Decimal) :
    targetPrincipal (some (base.getD 0)) (some ratio) = targetPrincipal base (some ratio) := by
  cases base with
  | none => norm_num [targetPrincipal, Quantize.down, Quantize.roundDown]
  | some base => rfl

section Describes

variable {config : StrategyConfig} {env : AutoEnvironment ι} {repo repo' : Repository ι}
  {review : ShownReview}

theorem ShownReview.Honest.capital {value : Decimal} (hhonest : review.Honest)
    (hchange : review.change = .capital value)
    (hsame : repo.system.settings.delegation = review.state.toDelegation)
    (hok : setBaseCapital config env repo value = .ok repo') :
    review.Describes repo'.system.settings := by
  obtain ⟨settings, hstate, hshown⟩ := hhonest
  rw [hchange] at hshown
  simp only [AutoSettings.review, setBaseCapital, Except.bind_eq_ok] at hshown hok
  obtain ⟨proposed, hproposed, hshown⟩ := hshown
  obtain ⟨base, hbase, hset⟩ := hok
  obtain rfl : proposed = base := Except.ok.inj (hproposed.symm.trans hbase)
  have hratio : settings.ratio = review.state.ratio := congrArg Delegation.ratio hstate
  have hcurrent : settings.baseCapital = review.state.baseCapital :=
    congrArg Delegation.baseCapital hstate
  have hkept : repo.system.settings.ratio = review.state.ratio := congrArg Delegation.ratio hsame
  have hconfigures := setOperatorConfig_configures hset
  rw [hkept] at hconfigures
  rw [Describes, ← Except.ok.inj hshown]
  refine ⟨congrArg (Option.getD · 0) hcurrent, hconfigures.baseCapital, hconfigures.ratio, ?_⟩
  rw [hratio, targetPrincipal_ratio_getD]
  exact hconfigures.targetPrincipal

theorem ShownReview.Honest.ratio {percent : Decimal} (hhonest : review.Honest)
    (hchange : review.change = .ratio percent)
    (hsame : repo.system.settings.delegation = review.state.toDelegation)
    (hok : setRatioPercent config env repo percent = .ok repo') :
    review.Describes repo'.system.settings := by
  obtain ⟨settings, hstate, hshown⟩ := hhonest
  rw [hchange] at hshown
  simp only [AutoSettings.review, setRatioPercent, Except.bind_eq_ok] at hshown hok
  obtain ⟨proposed, hproposed, hshown⟩ := hshown
  obtain ⟨ratio, hratio, hset⟩ := hok
  obtain rfl : proposed = ratio := Except.ok.inj (hproposed.symm.trans hratio)
  have hbase : settings.baseCapital = review.state.baseCapital :=
    congrArg Delegation.baseCapital hstate
  have hcurrent : settings.ratio = review.state.ratio := congrArg Delegation.ratio hstate
  have hkept : repo.system.settings.baseCapital = review.state.baseCapital :=
    congrArg Delegation.baseCapital hsame
  have hconfigures := setOperatorConfig_configures hset
  rw [hkept] at hconfigures
  rw [Describes, ← Except.ok.inj hshown]
  refine ⟨?_, ?_, hconfigures.baseCapital, ?_⟩
  · rw [AutoSettings.ratioPercent, hcurrent]
  · rw [AutoSettings.ratioPercent, hconfigures.ratio]
    rfl
  · rw [hbase, targetPrincipal_base_getD]
    exact hconfigures.targetPrincipal

theorem ShownReview.Honest.start (hhonest : review.Honest) (hchange : review.change = .start)
    (hsame : repo.system.settings.delegation = review.state.toDelegation)
    (hok : FinalOpsProductionJHAutoService.authorizeLaunch config env repo = .ok repo') :
    review.Describes repo'.system.settings := by
  obtain ⟨settings, hstate, hshown⟩ := hhonest
  rw [hchange] at hshown
  simp only [AutoSettings.review, Except.bind_eq_ok, raiseIf_eq_ok, Bool.not_eq_true] at hshown
  obtain ⟨_, hconfigured, _, hnot, hshown⟩ := hshown
  have hdelegation : repo.system.settings.delegation = settings.delegation :=
    hsame.trans hstate.symm
  have hfirst : repo.system.settings.launchAuthorized = false :=
    (congrArg Delegation.launchAuthorized hdelegation).trans hnot
  have htarget : repo.system.settings.targetPrincipal = settings.targetPrincipal :=
    congrArg Delegation.targetPrincipal hdelegation
  have hbase : repo.system.settings.baseCapital = settings.baseCapital :=
    congrArg Delegation.baseCapital hdelegation
  have hratio : repo.system.settings.ratio = settings.ratio :=
    congrArg Delegation.ratio hdelegation
  have hlaunched := authorizeLaunch_launched hok hfirst
  -- a review of a start is shown only when base and ratio are set
  simp only [Bool.not_eq_false, AutoSettings.configured, Bool.and_eq_true,
    Option.isSome_iff_exists] at hconfigured
  obtain ⟨⟨⟨base, hsetBase⟩, ratio, hsetRatio⟩, -⟩ := hconfigured
  rw [Describes, ← Except.ok.inj hshown]
  refine ⟨?_, ?_, hlaunched.launchAuthorized, ?_, ?_, hlaunched.targetPrincipal.trans htarget, ?_⟩
  · exact congrArg (fun delegation => Option.getD (Delegation.baseCapital delegation) 0) hstate
  · exact congrArg (fun delegation => (Option.map (fun ratio : Decimal => ratio * 100)
      (Delegation.ratio delegation)).getD 0) hstate
  · rw [hlaunched.baseCapital, hbase, hsetBase]
    rfl
  · rw [AutoSettings.ratioPercent, AutoSettings.ratioPercent, hlaunched.ratio, hratio, hsetRatio]
    rfl
  · rw [hlaunched.effectivePrincipal, htarget]

end Describes

/-! ## The discipline -/

/-- The change is the one that was reviewed, in time and with nothing changed in between. -/
structure AppliedChange.Follows (change : AppliedChange) (review : ShownReview) : Prop where
  number : review.number = change.review
  inTime : change.takenMonotonic - review.createdMonotonic ≤ autoConfirmTtlSeconds
  unchanged : change.found = review.state
  describes : review.Describes change.after

namespace ConsoleBooks

variable {books books' : ConsoleBooks ι}

/-- Every request waits for a review of its own that has not been answered, and every change
that was applied follows one. -/
structure Sound (books : ConsoleBooks ι) : Prop where
  honest : ∀ review ∈ books.reviews, review.Honest
  numbered : ∀ review ∈ books.reviews, review.number < books.reviews.length
  distinct : (books.reviews.map ShownReview.number).Nodup
  waiting : ∀ token item, books.pending token = some item →
    (∃ review ∈ books.reviews, review.Asks item) ∧
      item.review ∉ books.applied.map AppliedChange.review
  single : ∀ token token' item item', books.pending token = some item →
    books.pending token' = some item' → item.review = item'.review → token = token'
  follows : ∀ change ∈ books.applied, ∃ review ∈ books.reviews, change.Follows review
  once : (books.applied.map AppliedChange.review).Nodup

/-- The requests, the reviews, the changes and the delegation are as they were. -/
structure SameDesk (books books' : ConsoleBooks ι) : Prop where
  pending : books'.pending = books.pending
  reviews : books'.reviews = books.reviews
  applied : books'.applied = books.applied
  delegation : books'.repo.system.settings.delegation = books.repo.system.settings.delegation

theorem SameDesk.refl (books : ConsoleBooks ι) : SameDesk books books := ⟨rfl, rfl, rfl, rfl⟩

/-- The requests, the reviews and the changes are as they were. -/
structure SameTable (books books' : ConsoleBooks ι) : Prop where
  pending : books'.pending = books.pending
  reviews : books'.reviews = books.reviews
  applied : books'.applied = books.applied

theorem SameDesk.table (hsame : SameDesk books books') : SameTable books books' :=
  ⟨hsame.pending, hsame.reviews, hsame.applied⟩

theorem SameTable.sound (hsame : SameTable books books') (hsound : books.Sound) :
    books'.Sound := by
  obtain ⟨hpending, hreviews, happlied⟩ := hsame
  refine ⟨?_, ?_, ?_, ?_, ?_, ?_, ?_⟩
  · rw [hreviews]; exact hsound.honest
  · rw [hreviews]; exact hsound.numbered
  · rw [hreviews]; exact hsound.distinct
  · rw [hpending, hreviews, happlied]; exact hsound.waiting
  · rw [hpending]; exact hsound.single
  · rw [happlied, hreviews]; exact hsound.follows
  · rw [happlied]; exact hsound.once

/-- A write of the account. -/
theorem Sound.repo (hsound : books.Sound) (repo : Repository ι) :
    ConsoleBooks.Sound { books with repo := repo } :=
  have hsame : SameTable books { books with repo := repo } := ⟨rfl, rfl, rfl⟩
  hsame.sound hsound

/-- Requests that leave the table leave the others sound. -/
theorem Sound.of_fewer (hsound : books.Sound) (hreviews : books'.reviews = books.reviews)
    (happlied : books'.applied = books.applied)
    (hfewer : ∀ token item, books'.pending token = some item → books.pending token = some item) :
    books'.Sound where
  honest := by rw [hreviews]; exact hsound.honest
  numbered := by rw [hreviews]; exact hsound.numbered
  distinct := by rw [hreviews]; exact hsound.distinct
  waiting token item hitem := by
    rw [hreviews, happlied]
    exact hsound.waiting token item (hfewer token item hitem)
  single token token' item item' hitem hitem' hsame :=
    hsound.single token token' item item' (hfewer token item hitem) (hfewer token' item' hitem')
      hsame
  follows := by rw [happlied, hreviews]; exact hsound.follows
  once := by rw [happlied]; exact hsound.once

theorem Sound.expire (hsound : books.Sound) (now : ℚ) : (books.expire now).Sound :=
  hsound.of_fewer rfl rfl fun _ _ hitem => (Option.filter_eq_some_iff.mp hitem).1

theorem pending_drop_self (books : ConsoleBooks ι) (token : String) :
    (books.drop token).pending token = none := Function.update_self token _ _

theorem pending_drop_of_ne {token other : String} (hne : other ≠ token) :
    (books.drop token).pending other = books.pending other := Function.update_of_ne hne _ _

theorem Sound.drop (hsound : books.Sound) (token : String) : (books.drop token).Sound := by
  refine hsound.of_fewer rfl rfl fun other item hitem => ?_
  by_cases hsame : other = token
  · subst hsame
    rw [pending_drop_self] at hitem
    cases hitem
  · rwa [pending_drop_of_ne hsame] at hitem

/-- A review that is shown gets a number that no other one has. -/
theorem Sound.request (hsound : books.Sound) {token : String} {change : AutoChange}
    {shown : AutoReview} {created : ℚ} {state : ConfirmationState}
    (hhonest : ∃ settings : AutoSettings, settings.delegation = state.toDelegation ∧
      settings.review change = .ok shown) :
    (books.request token change shown created state).Sound := by
  -- Reviews are numbered in order, so the new number is unused.
  have hfresh : books.reviews.length ∉ books.reviews.map ShownReview.number := by
    intro hmem
    obtain ⟨review, hreview, hnumber⟩ := List.mem_map.mp hmem
    have hbelow := hsound.numbered review hreview
    omega
  have hnew : ∀ other item, other ≠ token →
      (books.request token change shown created state).pending other = some item →
        books.pending other = some item := by
    intro other item hother hitem
    exact (Function.update_of_ne hother _ _).symm.trans hitem
  have hself : (books.request token change shown created state).pending token = some {
      change := change
      createdMonotonic := created
      settingsState := state
      review := books.reviews.length } := Function.update_self token _ _
  refine ⟨?_, ?_, ?_, ?_, ?_, ?_, hsound.once⟩
  · intro review hreview
    rcases List.mem_cons.mp hreview with rfl | hold
    · exact hhonest
    · exact hsound.honest review hold
  · intro review hreview
    change review.number < books.reviews.length + 1
    rcases List.mem_cons.mp hreview with rfl | hold
    · exact Nat.lt_succ_self _
    · exact Nat.lt_succ_of_lt (hsound.numbered review hold)
  · exact List.nodup_cons.mpr ⟨hfresh, hsound.distinct⟩
  · -- The new request asks what its review shows, and nothing has been applied for it.
    intro other item hitem
    by_cases hsame : other = token
    · subst hsame
      rw [hself] at hitem
      cases hitem
      refine ⟨⟨_, List.mem_cons_self, rfl, rfl, rfl, rfl⟩, fun hmem => hfresh ?_⟩
      obtain ⟨applied, happlied, hnumber⟩ := List.mem_map.mp hmem
      obtain ⟨review, hreview, hfollows⟩ := hsound.follows applied happlied
      exact List.mem_map.mpr ⟨review, hreview, hfollows.number.trans hnumber⟩
    · obtain ⟨⟨review, hreview, hasks⟩, happlied⟩ := hsound.waiting other item (hnew _ _ hsame hitem)
      exact ⟨⟨review, List.mem_cons_of_mem _ hreview, hasks⟩, happlied⟩
  · -- The new request has a number of its own, the others keep theirs.
    have hapart : ∀ other item, other ≠ token →
        (books.request token change shown created state).pending other = some item →
          item.review ≠ books.reviews.length := by
      intro other item hother hitem hlength
      obtain ⟨⟨review, hreview, hasks⟩, -⟩ := hsound.waiting other item (hnew _ _ hother hitem)
      have hbelow := hsound.numbered review hreview
      rw [hasks.number] at hbelow
      omega
    intro first second item item' hitem hitem' hreview
    by_cases hfirst : first = token <;> by_cases hsecond : second = token
    · exact hfirst.trans hsecond.symm
    · subst hfirst
      rw [hself] at hitem
      cases hitem
      exact absurd hreview.symm (hapart second item' hsecond hitem')
    · subst hsecond
      rw [hself] at hitem'
      cases hitem'
      exact absurd hreview (hapart first item hfirst hitem)
    · exact hsound.single first second item item' (hnew _ _ hfirst hitem)
        (hnew _ _ hsecond hitem') hreview
  · intro applied happlied
    obtain ⟨review, hreview, hfollows⟩ := hsound.follows applied happlied
    exact ⟨review, List.mem_cons_of_mem _ hreview, hfollows⟩

/-- A request is off the table, and its review has not been answered. -/
structure Taken (asked : PendingAutoChange) (books : ConsoleBooks ι) : Prop where
  asks : ∃ review ∈ books.reviews, review.Asks asked
  fresh : asked.review ∉ books.applied.map AppliedChange.review
  off : ∀ token other, books.pending token = some other → other.review ≠ asked.review

theorem Taken.table {item : PendingAutoChange} (htaken : books.Taken item)
    (hsame : SameTable books books') : books'.Taken item where
  asks := by rw [hsame.reviews]; exact htaken.asks
  fresh := by rw [hsame.applied]; exact htaken.fresh
  off := by rw [hsame.pending]; exact htaken.off

theorem Sound.taken (hsound : books.Sound) {token : String} {item : PendingAutoChange}
    (hitem : books.pending token = some item) : (books.drop token).Taken item := by
  obtain ⟨hasks, hfresh⟩ := hsound.waiting token item hitem
  refine ⟨hasks, hfresh, fun other waiting hwaiting hreview => ?_⟩
  by_cases hsame : other = token
  · subst hsame
    rw [pending_drop_self] at hwaiting
    cases hwaiting
  · rw [pending_drop_of_ne hsame] at hwaiting
    exact hsame (hsound.single other token waiting item hwaiting hitem hreview)

/-- A change that follows its review is applied. -/
theorem Sound.apply (hsound : books.Sound) {item : PendingAutoChange} {taken : ℚ}
    {repo : Repository ι} (htaken : books.Taken item)
    (hinTime : taken - item.createdMonotonic ≤ autoConfirmTtlSeconds)
    (hdescribes : ∀ review ∈ books.reviews, review.Asks item →
      review.Describes repo.system.settings) :
    (books.apply item taken item.settingsState repo).Sound where
  honest := hsound.honest
  numbered := hsound.numbered
  distinct := hsound.distinct
  waiting token other hother := by
    obtain ⟨hasks, hfresh⟩ := hsound.waiting token other hother
    exact ⟨hasks, List.not_mem_cons_of_ne_of_not_mem (htaken.off token other hother) hfresh⟩
  single := hsound.single
  follows := by
    intro change hchange
    rcases List.mem_cons.mp hchange with rfl | hold
    · obtain ⟨review, hreview, hasks⟩ := htaken.asks
      refine ⟨review, hreview, hasks.number, ?_, hasks.state.symm, hdescribes review hreview hasks⟩
      rw [hasks.created]
      exact hinTime
    · exact hsound.follows change hold
  once := List.nodup_cons.mpr ⟨htaken.fresh, hsound.once⟩

end ConsoleBooks

open ConsoleBooks

/-- The table and the delegation are written under the lock only. -/
def consoleDiscipline : Prog.Discipline (ConsoleBooks ι) ConsoleQuery (ConsoleAnswer ι) where
  rely held books books' := held = true → SameDesk books books'
  guarantee held books books' := held = false → SameDesk books books'
  invariant := Sound
  answers _ _ := True

theorem consoleDiscipline_lawful : (consoleDiscipline (ι := ι)).Lawful where
  rely_refl _ books _ := .refl books
  rely_trans hfirst hsecond hheld := {
    pending := (hsecond hheld).pending.trans (hfirst hheld).pending
    reviews := (hsecond hheld).reviews.trans (hfirst hheld).reviews
    applied := (hsecond hheld).applied.trans (hfirst hheld).applied
    delegation := (hsecond hheld).delegation.trans (hfirst hheld).delegation }
  guarantee_refl _ books _ := .refl books

namespace JHAutoTelegramBotApp

/-! ## Sections under the lock -/

variable {α : Type} {books : ConsoleBooks ι} {item : PendingAutoChange}

/-- Under the lock nothing has to be guaranteed to the others. -/
theorem guarantee_held (books books' : ConsoleBooks ι) :
    (consoleDiscipline (ι := ι)).guarantee true books books' := fun hheld => by cases hheld

theorem wp_expirePending {ok : Bool → ℚ → ConsoleBooks ι → Prop}
    {err : Bool → PyError → ConsoleBooks ι → Prop}
    (hok : ∀ now books',
      books'.repo.system.settings.delegation = books.repo.system.settings.delegation →
      (∀ token item, books'.pending token = some item →
        now - item.createdMonotonic ≤ autoConfirmTtlSeconds) → ok true now books') :
    Proc.wp consoleDiscipline ok err expirePending true books := by
  refine Proc.wp_bind.mpr (Proc.wp_ask fun now books₁ _ h₁ => Proc.wp_bind.mpr ?_)
  refine Proc.wp_modify fun books₂ h₂ hsound => ⟨guarantee_held _ _, hsound.expire now, ?_⟩
  refine hok now (books₂.expire now) ((h₂ rfl).delegation.trans (h₁ rfl).delegation) ?_
  intro token item hitem
  exact of_decide_eq_true (Option.filter_eq_some_iff.mp hitem).2

/-- What is shown under the lock is shown for the account as it is. -/
theorem wp_reviewChangeLocked (change : AutoChange) (books : ConsoleBooks ι) :
    Proc.wp consoleDiscipline (fun held _ _ => held = true) (fun held _ _ => held = true)
      (reviewChangeLocked change) true books := by
  have hlawful := consoleDiscipline_lawful (ι := ι)
  refine Proc.wp_bind.mpr (Proc.wp_read hlawful fun books₁ _ _ => Proc.wp_bind.mpr ?_)
  cases hshown : books₁.repo.system.settings.review change with
  | error error => exact rfl
  | ok shown =>
      refine Proc.wp_bind.mpr (Proc.wp_bind.mpr (wp_expirePending fun now books₂ h₂ _ => ?_))
      refine Proc.wp_bind.mpr (Proc.wp_ask fun token books₃ _ h₃ => ?_)
      refine Proc.wp_bind.mpr (Proc.wp_ask fun created books₄ _ h₄ => ?_)
      refine Proc.wp_bind.mpr (Proc.wp_read hlawful fun books₅ h₅ _ => Proc.wp_bind.mpr ?_)
      refine Proc.wp_modify fun books₆ _ hsound => ⟨guarantee_held _ _, hsound.request ?_, rfl⟩
      refine ⟨books₁.repo.system.settings, ?_, hshown⟩
      calc books₁.repo.system.settings.delegation
          = books₂.repo.system.settings.delegation := h₂.symm
        _ = books₃.repo.system.settings.delegation := (h₃ rfl).delegation.symm
        _ = books₄.repo.system.settings.delegation := (h₄ rfl).delegation.symm
        _ = books₅.repo.system.settings.delegation := (h₅ rfl).delegation.symm

/-- The request of a confirmation under way: it is off the table, and the account is still the
one that was shown. -/
structure Underway (asked : PendingAutoChange) (books : ConsoleBooks ι) : Prop where
  taken : books.Taken asked
  unchanged : books.repo.system.settings.delegation = asked.settingsState.toDelegation

theorem Underway.desk {books' : ConsoleBooks ι} (hunderway : Underway item books)
    (hsame : SameDesk books books') : Underway item books' :=
  ⟨hunderway.taken.table hsame.table, hsame.delegation.trans hunderway.unchanged⟩

/-- Checks leave the confirmation under way. -/
theorem Underway.wp_quiet {ok : Bool → α → ConsoleBooks ι → Prop} {program : ConsoleAction ι α}
    (hunderway : Underway item books) (hquiet : Proc.Quiet program)
    (hok : ∀ value books', Underway item books' → ok true value books') :
    Proc.wp consoleDiscipline ok (fun held _ _ => held = true) program true books :=
  hquiet.wp consoleDiscipline_lawful
    (fun value books' hsame => hok value books' (hunderway.desk (hsame rfl))) fun _ _ _ => rfl

/-- Whatever the change is, it is applied as it was reviewed. -/
theorem Underway.wp_applyChange {ok : Bool → AutoSettings → ConsoleBooks ι → Prop} {taken : ℚ}
    {change : AutoEnvironment ι → Repository ι → Py (Repository ι)}
    (hunderway : Underway item books)
    (hinTime : taken - item.createdMonotonic ≤ autoConfirmTtlSeconds)
    (hdescribes : ∀ env repo repo' (review : ShownReview), review.Honest → review.Asks item →
      repo.system.settings.delegation = review.state.toDelegation → change env repo = .ok repo' →
        review.Describes repo'.system.settings)
    (hok : ∀ settings books', ok true settings books') :
    Proc.wp consoleDiscipline ok (fun held _ _ => held = true)
      (applyChange item taken item.settingsState change) true books := by
  refine Proc.wp_bind.mpr (Proc.wp_ask fun env books₁ _ h₁ => ?_)
  refine Proc.wp_transaction consoleDiscipline_lawful
    (fun books₂ books₃ settings h₂ hsound hcommit => ?_) fun _ _ _ _ => rfl
  have hnow := (hunderway.desk (h₁ rfl)).desk (h₂ rfl)
  split at hcommit
  next repo hchanged =>
    cases hcommit
    refine ⟨guarantee_held _ _, hsound.apply hnow.taken hinTime ?_, hok _ _⟩
    intro review hreview hasks
    refine hdescribes env books₂.repo repo review (hsound.honest review hreview) hasks ?_ hchanged
    rw [hasks.state]
    exact hnow.unchanged
  · cases hcommit

theorem quiet_checkCapitalChange : Proc.Quiet (checkCapitalChange : ConsoleAction ι Unit) := by
  refine .bind (.read _) fun busy => .bind (.raiseIf _ _) fun _ => ?_
  refine .bind (.read _) fun settings => ?_
  unfold Proc.when
  refine .ite (fun _ => ?_) fun _ => .pure ()
  refine .bind (.ask _) fun answer => .bind (.ofExcept _) fun mismatches => ?_
  exact .bind (.ite (fun _ => .pure true) fun _ => .read _) fun safeMode => .raiseIf _ _

theorem wp_confirmStart {config : StrategyConfig} {taken : ℚ} (hunderway : Underway item books)
    (hinTime : taken - item.createdMonotonic ≤ autoConfirmTtlSeconds)
    (hchange : item.change = .start) :
    Proc.wp consoleDiscipline (fun held _ _ => held = true) (fun held _ _ => held = true)
      (confirmStart config item taken item.settingsState) true books := by
  have hlawful := consoleDiscipline_lawful (ι := ι)
  refine Proc.wp_bind.mpr (hunderway.wp_quiet (.read _) fun before books₁ h₁ => Proc.wp_bind.mpr ?_)
  refine h₁.wp_applyChange hinTime ?_ fun updated books₂ => ?_
  · intro env repo repo' review hhonest hasks hsame hok
    exact hhonest.start (hasks.change.trans hchange) hsame hok
  · refine Proc.wp_bind.mpr (Proc.wp_read hlawful fun books₃ _ _ => ?_)
    split
    · refine Proc.wp_bind.mpr (Proc.wp_modify fun books₄ _ hsound => ?_)
      exact ⟨guarantee_held _ _, hsound.repo _, rfl⟩
    · exact rfl

/-- A confirmation applies the change its review has shown, or nothing. -/
theorem wp_confirmPendingLocked (config : StrategyConfig) (token : String)
    (books : ConsoleBooks ι) :
    Proc.wp consoleDiscipline (fun held _ _ => held = true) (fun held _ _ => held = true)
      (confirmPendingLocked config token) true books := by
  have hlawful := consoleDiscipline_lawful (ι := ι)
  refine Proc.wp_bind.mpr (wp_expirePending fun taken books₁ _ hfresh => Proc.wp_bind.mpr ?_)
  refine Proc.wp_attempt (fun books₂ _ hsound => ⟨guarantee_held _ _, hsound.drop token⟩) ?_
    fun _ _ _ _ => rfl
  intro books₂ popped h₂ hsound hpopped
  cases Except.ok.inj hpopped
  cases hitem : books₂.pending token with
  | none => exact rfl
  | some item =>
      have hinTime : taken - item.createdMonotonic ≤ autoConfirmTtlSeconds := by
        refine hfresh token item ?_
        rw [← (h₂ rfl).pending]
        exact hitem
      have htaken := hsound.taken hitem
      refine Proc.wp_bind.mpr (Proc.wp_read hlawful fun books₃ h₃ _ => Proc.wp_bind.mpr ?_)
      refine Proc.wp_raiseIf (fun hsame => ?_) fun _ => rfl
      have hfound := not_not.mp hsame
      rw [← hfound]
      have hunderway : Underway item books₃ := by
        refine ⟨htaken.table (h₃ rfl).table, ?_⟩
        rw [hfound]
        rfl
      cases hchange : item.change with
      | capital value =>
          refine Proc.wp_bind.mpr (hunderway.wp_quiet quiet_checkCapitalChange fun _ books₄ h₄ => ?_)
          refine h₄.wp_applyChange hinTime ?_ fun _ _ => rfl
          intro env repo repo' review hhonest hasks hdelegation hok
          exact hhonest.capital (hasks.change.trans hchange) hdelegation hok
      | ratio percent =>
          refine Proc.wp_bind.mpr (hunderway.wp_quiet quiet_checkCapitalChange fun _ books₄ h₄ => ?_)
          refine h₄.wp_applyChange hinTime ?_ fun _ _ => rfl
          intro env repo repo' review hhonest hasks hdelegation hok
          exact hhonest.ratio (hasks.change.trans hchange) hdelegation hok
      | start => exact wp_confirmStart hunderway hinTime hchange
      | other kind => exact rfl

/-! ## The process -/

/-- What a thread of the process runs. -/
inductive Starts (config : StrategyConfig) :
    Prog (ConsoleBooks ι) ConsoleQuery (ConsoleAnswer ι) Unit → Prop
  | review (change : AutoChange) : Starts config (Proc.forget (reviewChange change))
  | confirm (token : String) : Starts config (Proc.forget (confirmPending config token))
  | cancel (token : String) : Starts config (Proc.forget (cancelPending token))
  /-- Another section under the lock: capital is moved, BUY is shut or opened. -/
  | locked (program : ConsoleAction ι Unit)
      (hwrites : Proc.Atoms (fun update => ∀ books, SameTable books (update books)) program) :
      Starts config (Proc.forget (Proc.withLock program))
  /-- Everything else, which leaves the delegation alone. -/
  | elsewhere (program : ConsoleAction ι Unit)
      (hwrites : Proc.Atoms (fun update => ∀ books, SameDesk books (update books)) program) :
      Starts config (Proc.forget program)

/-- A restart: the requests were in memory. -/
structure Boots (books books' : ConsoleBooks ι) : Prop where
  pending : ∀ token, books'.pending token = none
  reviews : books'.reviews = books.reviews
  applied : books'.applied = books.applied

theorem Boots.sound {books books' : ConsoleBooks ι} (hboots : Boots books books')
    (hsound : books.Sound) : books'.Sound := by
  refine hsound.of_fewer hboots.reviews hboots.applied fun token item hitem => ?_
  rw [hboots.pending] at hitem
  cases hitem

theorem compatible {τ : Type} :
    Pool.Compatible (fun _ : τ => consoleDiscipline (ι := ι)) ConsoleBooks.Sound where
  lawful _ := consoleDiscipline_lawful
  invariant_eq _ := rfl
  answers _ _ _ := trivial
  rely _ hmutex hguarantee hheld := by
    refine hguarantee ?_
    rw [Bool.eq_false_iff]
    exact fun hother => hmutex ⟨hother, hheld⟩

/-- Every program a thread may start keeps the table sound. -/
theorem Starts.verified {config : StrategyConfig}
    {program : Prog (ConsoleBooks ι) ConsoleQuery (ConsoleAnswer ι) Unit}
    (hstarts : Starts config program) : Pool.Verified consoleDiscipline program := by
  intro books _
  cases hstarts with
  | review change =>
      exact (Proc.Safe.withLock_of_wp (wp_reviewChangeLocked change)).forget_wp books
  | confirm token =>
      exact (Proc.Safe.withLock_of_wp (wp_confirmPendingLocked config token)).forget_wp books
  | cancel token =>
      refine (Proc.Safe.withLock_of_wp fun state => Proc.wp_bind.mpr ?_).forget_wp books
      refine Proc.wp_attempt (fun books' _ hsound => ⟨guarantee_held _ _, hsound.drop token⟩)
        (fun _ _ _ _ _ => rfl) fun _ _ _ _ => rfl
  | locked program hwrites =>
      refine (Proc.Safe.withLock (Proc.Carries.tame ?_)).forget_wp books
      refine .of_atoms hwrites fun update hupdate books' hsound _ => ?_
      exact ⟨guarantee_held _ _, (hupdate books').sound hsound, trivial⟩
  | elsewhere program hwrites =>
      refine (Proc.Safe.of_tame (Proc.Carries.tame ?_)).forget_wp books
      refine .of_atoms hwrites fun update hupdate books' hsound _ => ?_
      exact ⟨fun _ => hupdate books', (hupdate books').table.sound hsound, trivial⟩

end JHAutoTelegramBotApp

open JHAutoTelegramBotApp

/-- An AUTO change is applied as it was reviewed.  Every change a confirmation applies answers a
review of its own, which was shown at most five minutes before; the account was still the one
that was shown, and the settings afterwards are the ones the review promised.  This holds for
every interleaving of reviews, confirmations and cancellations with whatever else the process
does, and across restarts. -/
theorem changes_are_as_reviewed {τ : Type} [DecidableEq τ] (config : StrategyConfig)
    {repo : Repository ι} {pool : Pool τ (ConsoleBooks ι) ConsoleQuery (ConsoleAnswer ι)}
    (hlives : Pool.Lives (fun _ => Starts config) Boots (Pool.idle { repo := repo }) pool) :
    (pool.state.reviews.map ShownReview.number).Nodup ∧
      (pool.state.applied.map AppliedChange.review).Nodup ∧
      ∀ change ∈ pool.state.applied, ∃ review ∈ pool.state.reviews, change.Follows review := by
  have hinitial : ConsoleBooks.Sound { repo := repo } := by
    refine ⟨?_, ?_, List.nodup_nil, ?_, ?_, ?_, List.nodup_nil⟩
    · exact fun _ hmem => absurd hmem List.not_mem_nil
    · exact fun _ hmem => absurd hmem List.not_mem_nil
    · exact fun _ _ hitem => by cases hitem
    · exact fun _ _ _ _ hitem => by cases hitem
    · exact fun _ hmem => absurd hmem List.not_mem_nil
  have hsound := (Pool.sound_of_lives compatible (fun _ _ hstarts => hstarts.verified)
    (fun _ _ hsound hboots => hboots.sound hsound) hinitial hlives).invariant
  exact ⟨hsound.distinct, hsound.once, hsound.follows⟩

/-! The capital, the ratio and the launch are reviewed and confirmed one after the other. -/

namespace ReviewedLaunch

def answer : (query : ConsoleQuery) → ConsoleAnswer ℕ query
  | .monotonic => (0 : ℚ)
  | .token => "token"
  | .reconcile => .ok false
  | .environment => AutoEnvironment.quiet

def reviewed (change : AutoChange) :
    List (Pool.Move Bool (ConsoleBooks ℕ) ConsoleQuery (ConsoleAnswer ℕ)) :=
  .start true (Proc.forget (reviewChange change)) :: List.replicate 12 (.turn true) ++
    .start false (Proc.forget (confirmPending .strategyYaml "token")) ::
      List.replicate 12 (.turn false)

def books : ConsoleBooks ℕ where
  repo := (Repository.initial ℕ).setSystem (Repository.initial ℕ).system.bootstrap

def after : Pool Bool (ConsoleBooks ℕ) ConsoleQuery (ConsoleAnswer ℕ) :=
  Pool.run answer (Pool.idle books)
    (reviewed (.capital 10000) ++ reviewed (.ratio 50) ++ reviewed .start)

theorem after_reachable :
    Pool.Reachable (fun _ => Starts .strategyYaml) (Pool.idle books) after := by
  refine Pool.run_reachable (fun self program hmem => ?_) _
  have hreviewed : ∀ change, Pool.Move.start self program ∈ reviewed change →
      Starts .strategyYaml program := by
    intro change hmem
    have hstart : program = Proc.forget (reviewChange change) ∨
        program = Proc.forget (confirmPending .strategyYaml "token") := by
      simp only [reviewed, List.mem_append, List.mem_cons, List.mem_replicate] at hmem
      grind
    rcases hstart with rfl | rfl
    · exact .review change
    · exact .confirm "token"
  simp only [List.mem_append] at hmem
  rcases hmem with (hmem | hmem) | hmem <;> exact hreviewed _ hmem

end ReviewedLaunch

open ReviewedLaunch in
/-- Three reviews are answered, and the last one has launched half of the target. -/
theorem changes_are_as_reviewed_launch :
    after.state.applied.map (fun change => (change.review, change.after.effectivePrincipal)) =
        [(2, 2500), (1, 0), (0, 0)] ∧
      ∀ change ∈ after.state.applied, ∃ review ∈ after.state.reviews, change.Follows review := by
  have hsound := changes_are_as_reviewed .strategyYaml after_reachable.lives
  exact ⟨by decide +kernel, hsound.2.2⟩

end JdHoldings

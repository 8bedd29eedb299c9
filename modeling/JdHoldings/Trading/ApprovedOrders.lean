import JdHoldings.Trading.InHand

/-!
# Only what was approved is ordered

Reviews, executions, cancellations, halts and sweeps run in threads of their own, and
everything else may write the ledger, the signals and the intents between any two steps.

An execution consumes its approval, quotes, compares the quote with the payload, and hands
its order over.  What holds at each of these points outlasts the steps of the others: the
approval stays in hand, and the row of the signal keeps its symbol and action
(`Underway`).  So the order is the approved one, and it is the only one.

The threads of the service take the steps of `ApprovalWorld` and no others: an execution
reaches the order boundary there when `execute` hands its order over here
(`approvalWorld_of_reachable`).
-/

namespace JdHoldings

variable {τ δ ι α : Type}

namespace TradingDesk

open TradingBooks

variable [DecidableEq δ] {hash : String → δ} {desk : TradingDesk δ} {signalId : SignalId}
  {now : Option Utc}

/-! ## The execution -/

section Execution

variable {self : τ} {held : Bool} {books : TradingBooks τ δ ι} {approvalId : ℕ}
  {payload : Option ApprovalPayload}

/-- The approval is in hand, and the row of its signal is identified by these columns. -/
structure Underway (owner : τ) (approvalId : ℕ) (signalId : SignalId)
    (payload : Option ApprovalPayload) (key : SignalId × AllocationSymbol × SignalAction)
    (books : TradingBooks τ δ ι) : Prop where
  inHand : books.InHand owner approvalId signalId payload
  row : books.HasKey signalId key

variable {key : SignalId × AllocationSymbol × SignalAction}

omit [DecidableEq δ] in
theorem Underway.steps {books' : TradingBooks τ δ ι}
    (hunderway : Underway self approvalId signalId payload key books)
    (hsteps : Steps (fun thread => thread = self) books books') :
    Underway self approvalId signalId payload key books' :=
  ⟨hunderway.inHand.steps hsteps, hsteps.kept _ _ hunderway.row⟩

/-- A statement that hands nothing over leaves the execution under way. -/
theorem Underway.wp_framed {config : StrategyConfig} {ok : Bool → α → TradingBooks τ δ ι → Prop}
    {err : Bool → TradingError → TradingBooks τ δ ι → Prop} {program : TradingAction τ δ ι α}
    (hunderway : Underway self approvalId signalId payload key books)
    (hframed : Proc.Atoms (Framed hash) program)
    (hok : ∀ value books', Underway self approvalId signalId payload key books' →
      ok held value books')
    (herr : ∀ error books', err held error books') :
    Proc.wp (tradingDiscipline hash config self) ok err program held books := by
  refine Proc.Carries.wp (carries_of_framed hframed fun before after hframe hbefore => ?_) hunderway
    (fun before after hsteps hbefore => hbefore.steps hsteps) hok fun error books' _ =>
      herr error books'
  exact hbefore.steps (hframe.steps _)

/-- The quote of a core BUY is within the row it was made for. -/
structure Quoted (config : StrategyConfig) (quoted : CoreSignal) (quote : ReviewQuote) : Prop where
  limit_le : quote.limitPrice ≤ quoted.maxChasePrice
  cost_le : quote.quantity * quote.limitPrice * (1 + config.buyFee) ≤ quoted.plannedBudget

/-- A quote leaves the row it was made for, and is within it. -/
theorem buildQuote_quoted {service : QuoteService ι} {config : StrategyConfig}
    {repo repo' : Repository ι} {signal signal' : CoreSignal} {current : Utc}
    {allowCashRelease : Bool} {quote : ReviewQuote} (hcore : signal.action = .coreRebalanceBuy)
    (hok : AllocationTradingService.buildQuote service config repo signal current allowCashRelease =
      ((repo', signal'), .ok quote)) : signal' = signal ∧ Quoted config signal quote := by
  obtain ⟨hpriced, -⟩ := AllocationTradingService.buildQuote_ok hcore hok
  refine ⟨?_, hpriced.limit_le, hpriced.isGreatest.1.1⟩
  unfold AllocationTradingService.buildQuote at hok
  rw [if_neg (not_not.mpr hcore)] at hok
  split at hok
  · cases hok
  next hactive =>
    have hsame := AllocationTradingService.activeSignal_ok hactive
    dsimp only at hok
    split at hok
    · cases hok
    · split at hok
      · cases hok
      · exact (Prod.mk.inj (Prod.mk.inj hok).1).2.symm.trans hsame

variable {ok : Bool → CoreSignal × ReviewQuote → TradingBooks τ δ ι → Prop}
  {err : Bool → TradingError → TradingBooks τ δ ι → Prop}

theorem wp_buildQuote {allowCashRelease : Bool}
    (hinHand : books.InHand self approvalId signalId payload)
    (hok : ∀ quoted quote books', Underway self approvalId signalId payload quoted.key books' →
      (quoted.action = .coreRebalanceBuy → Quoted desk.config quoted quote) →
        ok held (quoted, quote) books')
    (herr : ∀ error books', err held error books') :
    Proc.wp (tradingDiscipline desk.hash desk.config self) ok err
      (desk.buildQuote signalId now allowCashRelease) held books := by
  have hlawful := tradingDiscipline_lawful (ι := ι) desk.hash desk.config self
  refine Proc.wp_bind.mpr ((quiet_clock now).wp hlawful (fun current books₁ h₁ => ?_)
    fun error books₁ _ => herr error books₁)
  refine Proc.wp_bind.mpr (Proc.wp_ask fun service books₂ _ h₂ => ?_)
  -- A quote keeps the key of the signal, so the write leaves what the approval was for.
  have hkey := fun repo signal => AllocationTradingService.buildQuote_key service desk.config repo
    signal current allowCashRelease
  have hwrite : Proc.Atoms (Framed desk.hash) (withSignal signalId _ : TradingAction τ δ ι _) :=
    framed_withSignal hkey
  have hframed := hwrite.1
  -- Refused, the transaction leaves the books; accepted, it commits its write.
  refine Proc.wp_attempt (fun books₃ _ hsound => ?_) (fun books₃ value h₃ hsound hvalue => ?_)
    fun books₃ error _ _ => herr error _
  · exact ⟨(hframed books₃).guaranteed self, (hframed books₃).sound hsound⟩
  have hinHand₃ := ((hinHand.steps h₁).steps h₂).steps h₃
  have hafter := hinHand₃.frame (hframed books₃)
  revert hafter hvalue
  cases hrow : books₃.signals signalId with
  | none =>
      intro hvalue
      cases hvalue
  | some signal =>
      cases hresult : AllocationTradingService.buildQuote service desk.config books₃.repo signal
          current allowCashRelease with
      | mk left result =>
          cases result with
          | error error =>
              intro hvalue
              simp only [hresult] at hvalue
              cases hvalue
          | ok quote =>
              intro hvalue hafter
              simp only [hrow, hresult] at hvalue hafter ⊢
              cases hvalue
              refine hok left.2 quote _ ⟨hafter, left.2, setSignal_self _ _ _, rfl⟩ fun hcore => ?_
              have hsame := hkey books₃.repo signal
              rw [hresult] at hsame
              have haction : signal.action = .coreRebalanceBuy :=
                (congrArg (fun key => key.2.2) hsame).symm.trans hcore
              obtain ⟨hleft, hquoted⟩ := buildQuote_quoted haction hresult
              rw [hleft]
              exact hquoted

/-- A failed quote raises its error again. -/
theorem wp_requote
    (hinHand : books.InHand self approvalId signalId payload)
    (hok : ∀ quoted quote books', Underway self approvalId signalId payload quoted.key books' →
      (quoted.action = .coreRebalanceBuy → Quoted desk.config quoted quote) →
        ok held (quoted, quote) books')
    (herr : ∀ error books', err held error books') :
    Proc.wp (tradingDiscipline desk.hash desk.config self) ok err (desk.requote signalId now) held books := by
  refine Proc.wp_tryCatch.mpr (wp_buildQuote hinHand hok fun error books' => ?_)
  refine Proc.wp_bind.mpr ?_
  exact (tame_of_framed (framed_setCashIntentStatus signalId .canceled)).wp
    (fun _ => herr error) herr

/-- The consumption of an execution approval puts it in hand. -/
theorem wp_consumeApproval {token : String}
    {ok : Bool → SignalId × Option ApprovalPayload → TradingBooks τ δ ι → Prop}
    (hok : ∀ signalId payload books', books'.InHand self approvalId signalId payload →
      ok held (signalId, payload) books')
    (herr : ∀ error books', err held error books') :
    Proc.wp (tradingDiscipline desk.hash desk.config self) ok err
      (desk.consumeApproval self approvalId token .execution) held books := by
  refine Proc.wp_bind.mpr (Proc.wp_ask fun current books₁ _ _ => ?_)
  refine Proc.wp_transaction (tradingDiscipline_lawful desk.hash desk.config self)
    (fun books₂ books₃ consumed _ hsound hcommit => ?_) fun books₂ error _ _ => herr error books₂
  split at hcommit
  next store taken hresult =>
    cases hcommit
    have htaken : (ApprovalStore.consumeApproval desk.hash approvalId token .execution current
        books₂.store).2 = .ok consumed := by rw [hresult]
    have hafter : (books₂.withStore store).take self approvalId =
        (books₂.withStore (ApprovalStore.consumeApproval desk.hash approvalId token .execution
          current books₂.store).1).take self approvalId := by rw [hresult]
    obtain ⟨hsteps, hkept, hinHand⟩ := hsound.take htaken hafter
    exact ⟨hsteps, hkept, hok consumed.1 consumed.2 _ hinHand⟩
  · cases hcommit

/-- The signal that is executed is a core BUY, and the one the quote was made for. -/
theorem wp_activeSignal {config : StrategyConfig}
    {ok : Bool → CoreSignal → TradingBooks τ δ ι → Prop}
    (hunderway : Underway self approvalId signalId payload key books)
    (hok : ∀ signal books', Underway self approvalId signalId payload key books' →
      signal.key = key → signal.action = .coreRebalanceBuy → ok held signal books')
    (herr : ∀ error books', err held error books') :
    Proc.wp (tradingDiscipline hash config self) ok err (activeSignal signalId now) held books := by
  have hlawful := tradingDiscipline_lawful (ι := ι) hash config self
  refine Proc.wp_bind.mpr ((quiet_clock now).wp hlawful (fun current books₁ h₁ => ?_)
    fun error books₁ _ => herr error books₁)
  refine Proc.wp_bind.mpr (Proc.wp_ask fun service books₂ _ h₂ => Proc.wp_bind.mpr ?_)
  have hkey := fun (repo : Repository ι) signal =>
    AllocationTradingService.activeSignal_key service repo signal current
  have hwrite : Proc.Atoms (Framed hash) (withSignal signalId (fun repo signal =>
      ((repo, (AllocationTradingService.activeSignal service repo signal current).1),
        (AllocationTradingService.activeSignal service repo signal current).2)) :
      TradingAction τ δ ι _) := framed_withSignal hkey
  have hframed := hwrite.1
  refine Proc.wp_attempt (fun books₃ _ hsound => ?_) (fun books₃ value h₃ hsound hvalue => ?_)
    fun books₃ error _ _ => herr error _
  · exact ⟨(hframed books₃).guaranteed self, (hframed books₃).sound hsound⟩
  have hbefore := ((hunderway.steps h₁).steps h₂).steps h₃
  have hafter := hbefore.steps ((hframed books₃).steps _)
  obtain ⟨row, hrow, hrowKey⟩ := hbefore.row
  simp only [hrow] at hafter hvalue ⊢
  cases hgate : (AllocationTradingService.activeSignal service books₃.repo row current).2 with
  | error error =>
      rw [hgate] at hvalue
      cases hvalue
  | ok passed =>
      rw [hgate] at hvalue
      cases hvalue
      have hsame := hkey books₃.repo row
      refine hok _ _ hafter (hsame.trans hrowKey) ?_
      have hcore := AllocationTradingService.activeSignal_core hgate
      exact (congrArg (fun key => key.2.2) hsame).trans hcore

/-- The signal, the quote and the approval of an execution agree. -/
structure Agreed (config : StrategyConfig) (quoted signal : CoreSignal) (quote : ReviewQuote)
    (approved : ApprovalPayload) : Prop where
  key : signal.key = quoted.key
  quoted : Quoted config quoted quote
  compared : quote.matches approved = true

/-- Where the comparison succeeds, the order is the approved one. -/
theorem Agreed.submission_matches {config : StrategyConfig} {quoted signal : CoreSignal}
    {quote : ReviewQuote} {approved : ApprovalPayload} {clientOrderId : ι}
    {request : OrderRequest ι} (hagreed : Agreed config quoted signal quote approved)
    (hrequest : buildRequest signal quote clientOrderId = .ok request) :
    Submission.Matches config ⟨approvalId, quoted, quote, request⟩ approved := by
  obtain ⟨⟨⟨hceiling, hlimit⟩, hquantity⟩, hsession⟩ :
      ((quote.executionCeiling = approved.executionCeiling ∧
        quote.limitPrice = approved.limitPrice) ∧ quote.quantity = approved.quantity) ∧
        quote.session.text = approved.session := by
    simpa [ReviewQuote.matches] using hagreed.compared
  have hsymbol : signal.symbol = quoted.symbol := congrArg (fun key => key.2.1) hagreed.key
  unfold buildRequest at hrequest
  split at hrequest
  · cases hrequest
    exact {
      symbol := congrArg Symbol.allocation hsymbol
      purpose := rfl
      orderType := rfl
      quantity := hquantity
      price := congrArg some hlimit
      ceiling := hceiling
      session := hsession
      price_le := hlimit ▸ hagreed.quoted.limit_le
      cost_le := hquantity ▸ hlimit ▸ hagreed.quoted.cost_le }
  · cases hrequest

section Order

variable [DecidableEq ι] {quoted signal : CoreSignal} {quote : ReviewQuote}
  {approved : ApprovalPayload}

/-- The order of an execution under way is handed over, and nothing else is. -/
theorem wp_submitOrder {config : StrategyConfig} {request : OrderRequest ι} {clientOrderId : ι}
    (hunderway : Underway self approvalId signalId (some approved) quoted.key books)
    (hagreed : Agreed config quoted signal quote approved)
    (hrequest : buildRequest signal quote clientOrderId = .ok request) :
    Proc.wp (tradingDiscipline hash config self) (fun held' _ _ => held' = held)
      (fun held' _ _ => held' = held) (submitOrder approvalId quoted signal quote request) held
      books := by
  refine Proc.wp_bind.mpr (Proc.wp_modify fun books₁ h₁ hsound => ?_)
  have hnow := hunderway.steps h₁
  have hsignalId : quoted.signalId = signalId := by
    obtain ⟨row, hrow, hkey⟩ := hnow.row
    exact (congrArg Prod.fst hkey).symm.trans (hsound.keyed signalId row hrow)
  let submission : Submission ι := ⟨approvalId, quoted, quote, request⟩
  have hinHand : books₁.InHand self submission.approvalId submission.signal.signalId
      (some approved) := by
    rw [show submission.signal.signalId = signalId from hsignalId]
    exact hnow.inHand
  obtain ⟨hsteps, hafter⟩ := hsound.handOver hinHand (hagreed.submission_matches hrequest)
  refine ⟨hsteps, hafter, Proc.wp_bind.mpr (Proc.wp_ask fun answer books₂ _ _ => ?_)⟩
  cases answer with
  | error error =>
      exact (tame_of_framed (framed_afterFailure signal request error)).wp (fun _ _ => rfl)
        fun _ _ => rfl
  | ok receipt =>
      exact (tame_of_framed (framed_afterReceipt signal request receipt)).wp (fun _ _ => rfl)
        fun _ _ => rfl

theorem wp_executeCoreBuy
    (hunderway : Underway self approvalId signalId (some approved) quoted.key books)
    (hagreed : Agreed desk.config quoted signal quote approved) :
    Proc.wp (tradingDiscipline desk.hash desk.config self) (fun held' _ _ => held' = held)
      (fun held' _ _ => held' = held) (desk.executeCoreBuy approvalId quoted signal quote now) held
      books := by
  refine Proc.wp_bind.mpr (hunderway.wp_framed (framed_of_quiet (quiet_checkExecution desk signal
    now)) (fun _ books₁ h₁ => ?_) fun _ _ => rfl)
  refine Proc.wp_bind.mpr (Proc.wp_ask fun clientOrderId books₂ _ h₂ => Proc.wp_bind.mpr ?_)
  cases hrequest : buildRequest signal quote clientOrderId with
  | error error => exact rfl
  | ok request => exact wp_submitOrder (h₁.steps h₂) hagreed hrequest

/-- An execution hands over what was approved, if anything. -/
theorem safe_execute (desk : TradingDesk δ) (self : τ) (approvalId : ℕ)
    (token : String) (now : Option Utc) :
    Proc.Safe (tradingDiscipline desk.hash desk.config self)
      (desk.execute self approvalId token now : TradingAction τ δ ι _) := by
  intro books
  refine Proc.wp_bind.mpr (wp_consumeApproval (fun signalId payload books₁ h₁ => ?_)
    fun _ _ => rfl)
  refine Proc.wp_bind.mpr (wp_requote h₁ (fun quoted quote books₂ h₂ hquoted => ?_) fun _ _ => rfl)
  cases payload with
  | none => exact rfl
  | some approved =>
      refine Proc.wp_bind.mpr ?_
      by_cases hcompared : quote.matches approved = false
      · rw [compareQuote, if_pos hcompared]
        refine Proc.wp_bind.mpr (h₂.wp_framed (framed_setCashIntentStatus signalId .canceled) ?_
          fun _ _ => rfl)
        exact fun _ _ _ => rfl
      · rw [compareQuote, if_neg hcompared]
        refine Proc.wp_bind.mpr (wp_activeSignal h₂ (fun signal books₃ h₃ hkey hcore => ?_)
          fun _ _ => rfl)
        refine wp_executeCoreBuy h₃ ⟨hkey, hquoted ?_, by simpa using hcompared⟩
        exact (congrArg (fun key => key.2.2) hkey).symm.trans hcore

end Order

end Execution

/-! ## The process -/

/-- Whatever writes the ledger, the signals and the intents besides the service: it leaves the
approvals alone, and what identifies a signal. -/
structure Elsewhere (update : TradingBooks τ δ ι → TradingBooks τ δ ι) : Prop where
  approvals : ∀ books, (update books).approvals = books.approvals
  kept : ∀ books signalId key, books.HasKey signalId key → (update books).HasKey signalId key
  keyed : ∀ books, books.Keyed → (update books).Keyed
  submissions : ∀ books, (update books).submissions = books.submissions
  inHand : ∀ books, (update books).inHand = books.inHand

theorem Elsewhere.framed {update : TradingBooks τ δ ι → TradingBooks τ δ ι}
    (helsewhere : Elsewhere update) : Framed hash update := fun books => {
  transacts := .of_same (helsewhere.approvals books)
  kept := helsewhere.kept books
  keyed := helsewhere.keyed books
  submissions := helsewhere.submissions books
  inHand := helsewhere.inHand books }

theorem compatible (hash : String → δ) (config : StrategyConfig) :
    Pool.Compatible (fun self : τ => (tradingDiscipline hash config self :
      Prog.Discipline (TradingBooks τ δ ι) (TradingQuery ι) TradingAnswer)) (Sound config) where
  lawful := tradingDiscipline_lawful hash config
  invariant_eq _ := rfl
  answers _ _ _ := trivial
  rely hne _ hguarantee := {
    moves := hguarantee.steps.moves
    kept := hguarantee.steps.kept
    inHand := by
      rintro approvalId thread rfl hheld
      exact hguarantee.steps.inHand approvalId thread (Ne.symm hne) hheld }

section Process

variable [DecidableEq ι]

/-- What a thread of the process runs. -/
inductive Starts (desk : TradingDesk δ) (self : τ) :
    Prog (TradingBooks τ δ ι) (TradingQuery ι) TradingAnswer Unit → Prop
  | createReview (signalId : SignalId) (now : Option Utc) :
      Starts desk self (Proc.forget (desk.createReviewApproval signalId now))
  | consumeReview (approvalId : ℕ) (token : String) (now : Option Utc) :
      Starts desk self (Proc.forget (desk.consumeReview self approvalId token now))
  | resume (now : Option Utc) : Starts desk self (Proc.forget (desk.resumeCashReleases now))
  | cancelApproval (approvalId : ℕ) :
      Starts desk self (Proc.forget (desk.cancelApproval approvalId))
  | cancelRelease (signalId : SignalId) :
      Starts desk self (Proc.forget (cancelCashRelease signalId))
  | execute (approvalId : ℕ) (token : String) (now : Option Utc) :
      Starts desk self (Proc.forget (desk.execute self approvalId token now))
  | halt : Starts desk self (Proc.forget haltTransaction)
  | reactivate (signalId : SignalId) (signalClose maxChasePrice plannedBudget : Decimal)
      (validUntil : Utc) :
      Starts desk self (Proc.forget
        (reactivateCoreSignal signalId signalClose maxChasePrice plannedBudget validUntil))
  | elsewhere (program : TradingAction τ δ ι Unit) (hwrites : Proc.Atoms Elsewhere program) :
      Starts desk self (Proc.forget program)

/-- Every program a thread may start hands over only what it has in hand. -/
theorem Starts.verified {desk : TradingDesk δ} {self : τ}
    {program : Prog (TradingBooks τ δ ι) (TradingQuery ι) TradingAnswer Unit}
    (hstarts : Starts desk self program) :
    Pool.Verified (tradingDiscipline desk.hash desk.config self) program := by
  have hsafe : ∀ {α : Type} {action : TradingAction τ δ ι α}, Proc.Atoms (Framed desk.hash) action →
      Proc.Safe (tradingDiscipline desk.hash desk.config self) action :=
    fun hframed => .of_tame (tame_of_framed hframed)
  intro books _
  cases hstarts with
  | createReview signalId now => exact (hsafe (framed_createReviewApproval desk signalId now)).forget_wp books
  | consumeReview approvalId token now =>
      exact (hsafe (framed_consumeReview desk self approvalId token now)).forget_wp books
  | resume now => exact (hsafe (framed_resumeCashReleases desk now)).forget_wp books
  | cancelApproval approvalId => exact (hsafe (framed_cancelApproval desk approvalId)).forget_wp books
  | cancelRelease signalId => exact (hsafe (framed_cancelCashRelease signalId)).forget_wp books
  | execute approvalId token now =>
      exact (safe_execute desk self approvalId token now).forget_wp books
  | halt => exact (hsafe framed_haltTransaction).forget_wp books
  | reactivate signalId signalClose maxChasePrice plannedBudget validUntil =>
      exact (hsafe (framed_reactivateCoreSignal ..)).forget_wp books
  | elsewhere program hwrites =>
      exact (hsafe (hwrites.mono fun _ helsewhere => helsewhere.framed)).forget_wp books

variable [DecidableEq τ] {books : TradingBooks τ δ ι}
  {pool : Pool τ (TradingBooks τ δ ι) (TradingQuery ι) TradingAnswer}

/-- Every thread keeps to its discipline, from books without orders on. -/
theorem sound_of_reachable (hkeyed : books.Keyed) (hfresh : books.submissions = [])
    (hempty : ∀ approvalId, books.inHand approvalId = none)
    (hreachable : Pool.Reachable (Starts desk) (Pool.idle books) pool) :
    Pool.Sound (fun self => tradingDiscipline desk.hash desk.config self) (Sound desk.config)
      pool := by
  have hinitial : books.Sound desk.config := by
    refine ⟨hkeyed, ?_, ?_, ?_⟩
    · rw [hfresh]
      exact fun _ hmem => absurd hmem List.not_mem_nil
    · rw [hfresh]
      exact List.nodup_nil
    · intro approvalId self hheld
      rw [hempty] at hheld
      cases hheld
  exact Pool.sound_of_reachable (compatible desk.hash desk.config)
    (fun _ _ hstarts => hstarts.verified) hinitial hreachable

/-- The service runs as `ApprovalWorld` says.  Its transactions on the approvals are those of a
run, and every order is handed over as an execution in flight reaches the order boundary. -/
theorem approvalWorld_of_reachable (hkeyed : books.Keyed) (hfresh : books.submissions = [])
    (hempty : ∀ approvalId, books.inHand approvalId = none) (hnone : books.approvals = [])
    (hreachable : Pool.Reachable (Starts desk) (Pool.idle books) pool) :
    ∃ world, ApprovalWorld.Reachable desk.hash world ∧ pool.state.Shown world := by
  induction hreachable with
  | refl =>
      refine ⟨{ store := books.store }, .start books.store hnone, rfl, rfl, ?_, ?_⟩
      · intro approvalId thread hheld
        rw [show (Pool.idle books : Pool τ _ (TradingQuery ι) TradingAnswer).state.inHand
          = books.inHand from rfl, hempty] at hheld
        cases hheld
      · rw [show (Pool.idle books : Pool τ _ (TradingQuery ι) TradingAnswer).state.submissions
          = books.submissions from rfl, hfresh]
        rfl
  | tail hbefore hstep ih =>
      obtain ⟨world, hrun, hshown⟩ := ih
      have hsound := sound_of_reachable hkeyed hfresh hempty hbefore
      rcases hsound.guarantee (compatible desk.hash desk.config) hstep with
        hsame | ⟨thread, held, hguarantee⟩
      · rw [hsame]
        exact ⟨world, hrun, hshown⟩
      · obtain ⟨world', hsteps, hshown'⟩ := hguarantee.advances world hshown
        exact ⟨world', hrun.steps hsteps, hshown'⟩

end Process

end TradingDesk

open TradingDesk

/-- Only what was approved is ordered, and once.  Every order handed to the order manager belongs
to an approval of its own, which was approved for execution and consumed in time; it has the price
and the quantity of that approval, and its quote the ceiling and the session.  No interleaving of
reviews, executions, cancellations, sweeps and halts changes this, and no crash. -/
theorem orders_are_as_approved [DecidableEq τ] [DecidableEq δ] [DecidableEq ι]
    (desk : TradingDesk δ) {books : TradingBooks τ δ ι}
    {pool : Pool τ (TradingBooks τ δ ι) (TradingQuery ι) TradingAnswer}
    (hkeyed : books.Keyed) (hfresh : books.submissions = [])
    (hempty : ∀ approvalId, books.inHand approvalId = none)
    (hreachable : Pool.Reachable (Starts desk) (Pool.idle books) pool) :
    (pool.state.submissions.map Submission.approvalId).Nodup ∧
      ∀ submission ∈ pool.state.submissions, submission.Approved desk.config pool.state := by
  have hsound := (sound_of_reachable hkeyed hfresh hempty hreachable).invariant
  exact ⟨hsound.once, hsound.approved⟩

/-! A review is consumed, and two threads execute the approval it ends with. -/

namespace ExecutedTwice

def desk : TradingDesk String where
  config := .strategyYaml
  tokens := ⟨30, 120⟩
  hash token := token
  live := false
  path := AllocationTradingService.buyPath

/-- The signal of `QuotedAtOpen`, with a review that nobody has answered yet. -/
def books : TradingBooks Bool String ℕ where
  repo := QuotedAtOpen.repo
  signals signalId :=
    if signalId = 1 then some QuotedAtOpen.signal else none
  approvals := [{
    signalId := 1
    tokenHash := "review"
    stage := .review
    expiresAt := QuotedAtOpen.signal.validUntil
    createdAt := QuotedAtOpen.now }]

def answer : (query : TradingQuery ℕ) → TradingAnswer query
  | .utcNow => QuotedAtOpen.now
  | .token => "execution"
  | .surroundings => QuotedAtOpen.service
  | .intentOrder => []
  | .cancelEntryRelease _ => .ok ()
  | .clientOrderId _ _ _ => (0 : ℕ)
  | .submit _ => .error (.runtime "")

def moves : List (Pool.Move Bool (TradingBooks Bool String ℕ) (TradingQuery ℕ) TradingAnswer) :=
  .start true (Proc.forget (desk.consumeReview true 1 "review" none)) ::
    List.replicate 20 (.turn true) ++
    .start true (Proc.forget (desk.execute true 2 "execution" none)) ::
    .start false (Proc.forget (desk.execute false 2 "execution" none)) ::
    (List.replicate 30 [.turn true, .turn false]).flatten

def after : Pool Bool (TradingBooks Bool String ℕ) (TradingQuery ℕ) TradingAnswer :=
  Pool.run answer (Pool.idle books) moves

theorem after_reachable : Pool.Reachable (Starts desk) (Pool.idle books) after := by
  refine Pool.run_reachable (fun self program hmem => ?_) _
  have hstart : (self = true ∧ program = Proc.forget (desk.consumeReview true 1 "review" none)) ∨
      program = Proc.forget (desk.execute self 2 "execution" none) := by
    simp only [moves, List.mem_append, List.mem_cons, List.mem_replicate, List.mem_flatten] at hmem
    grind
  obtain ⟨rfl, rfl⟩ | rfl := hstart
  · exact .consumeReview 1 "review" none
  · exact .execute 2 "execution" none

theorem keyed_books : books.Keyed := by
  intro signalId row hrow
  simp only [books, Option.ite_none_right_eq_some, Option.some.injEq] at hrow
  obtain ⟨rfl, rfl⟩ := hrow
  rfl

end ExecutedTwice

open ExecutedTwice in
/-- One of the two executions hands an order over, and it is the approved one. -/
theorem orders_are_as_approved_twice :
    after.state.submissions.map Submission.approvalId = [2] ∧
      ∀ submission ∈ after.state.submissions, submission.Approved desk.config after.state := by
  have hsound := orders_are_as_approved desk keyed_books rfl (fun _ => rfl) after_reachable
  exact ⟨by decide +kernel, hsound.2⟩

end JdHoldings

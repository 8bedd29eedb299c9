import JdHoldings.Automation.ExecuteOne
import Mathlib.Logic.Relation

/-!
# The attempt limits

At most five AUTO cycles begin on a New York trading date and at most three of them for
one signal, whatever the attempts end in and whatever happens between the calls.

`execute_one` counts rows and trusts nothing else.  The key that defers a signal is
rewritten from the count at the start of each call, before it is read, so a shorter
cooldown written since then does not matter (`enforceAttemptLimits_ok`).  The release of
a quarantine does not matter either, because the day's total is counted again.

A cycle begins in the regular session only, which lies within one UTC date, so the same
bounds hold for UTC dates.
-/

namespace JdHoldings

variable {κ ι : Type}

namespace AutoStore

/-! ## Counting attempts -/

/-- The cycles that began on a date. -/
def attemptsOn (dateOf : Utc → ℕ) (store : AutoStore κ ι) (day : ℕ) : ℕ :=
  store.attempts.countP fun attempt => decide (dateOf attempt.2 = day)

/-- The cycles of a signal that began on a date. -/
def signalAttemptsOn (dateOf : Utc → ℕ) (store : AutoStore κ ι) (signalId : SignalId) (day : ℕ) :
    ℕ :=
  store.attempts.countP fun attempt =>
    decide (attempt.1 = some signalId) && decide (dateOf attempt.2 = day)

section Fields

variable (store : AutoStore κ ι) (system : SystemState) (signalId : SignalId) (time : Utc)

@[simp] theorem setSystem_attempts : (store.setSystem system).attempts = store.attempts := rfl

@[simp] theorem setRetryAfter_attempts :
    (store.setRetryAfter signalId time).attempts = store.attempts := rfl

@[simp] theorem quarantine_attempts : store.quarantine.attempts = store.attempts := rfl

end Fields

theorem updateCycle_attempts [DecidableEq κ] (store : AutoStore κ ι) (cycleId : κ)
    {set : AutoCycle κ → AutoCycle κ} (hid : ∀ row, (set row).cycleId = row.cycleId)
    (hsignal : ∀ row, (set row).signalId = row.signalId)
    (hstart : ∀ row, (set row).startedAt = row.startedAt) :
    (store.updateCycle cycleId set).attempts = store.attempts := by
  unfold updateCycle
  cases hget : store.cycles.get? cycleId with
  | none => rfl
  | some old =>
      simp only [attempts, Table.replace, List.map_map]
      refine List.map_congr_left fun row hrow => ?_
      simp only [Function.comp_apply]
      split
      next hkey =>
        have hsame : row = old :=
          store.cycles.eq_of_key_eq hrow (Table.mem_of_get? hget) (hkey.trans (hid old))
        rw [hsame, hsignal, hstart]
      · rfl

theorem datetimeOf_ok {micros : ℤ} {time : Utc} (hok : datetimeOf micros = .ok time) :
    time.micros = micros := by
  unfold datetimeOf at hok
  cases htime : Utc.ofMicros? micros with
  | none =>
      rw [htime] at hok
      cases hok
  | some time' =>
      rw [htime] at hok
      cases hok
      exact Utc.micros_of_ofMicros? htime

theorem setRetryCooldown_attempts {store store' : AutoStore κ ι} {signalId : SignalId}
    {current : Utc} (hok : store.setRetryCooldown signalId current = .ok store') :
    store'.attempts = store.attempts := by
  obtain ⟨time, -, hok⟩ := Except.bind_eq_ok.mp hok
  cases hok
  rfl

/-! ## Counting and deferring -/

@[simp] theorem deferSignal_attempts (nextDay : Utc) (store : AutoStore κ ι)
    (row : Option SignalId × ℕ) : (deferSignal nextDay store row).attempts = store.attempts := by
  unfold deferSignal
  split
  · rfl
  · split <;> rfl

theorem foldl_deferSignal_attempts (nextDay : Utc) (rows : List (Option SignalId × ℕ))
    (store : AutoStore κ ι) : (rows.foldl (deferSignal nextDay) store).attempts = store.attempts := by
  induction rows generalizing store with
  | nil => rfl
  | cons row rows ih => rw [List.foldl_cons, ih, deferSignal_attempts]

/-- A deferred signal stays deferred. -/
theorem foldl_deferSignal_of_at {nextDay : Utc} {signalId : SignalId}
    (rows : List (Option SignalId × ℕ)) {store : AutoStore κ ι}
    (hat : store.retryAfter signalId = .at nextDay) :
    (rows.foldl (deferSignal nextDay) store).retryAfter signalId = .at nextDay := by
  induction rows generalizing store with
  | nil => exact hat
  | cons row rows ih =>
      refine ih ?_
      unfold deferSignal
      split
      · exact hat
      next other _ =>
        split
        · exact hat
        · rcases eq_or_ne signalId other with rfl | hne
          · simp [setRetryAfter]
          · simp [setRetryAfter, hne, hat]

/-- The loop defers every signal that used up its attempts. -/
theorem foldl_deferSignal_retryAfter {nextDay : Utc} {signalId : SignalId} {count : ℕ}
    (hcount : maxAutoSignalAttemptsPerDay ≤ count) (rows : List (Option SignalId × ℕ))
    {store : AutoStore κ ι} (hmem : (some signalId, count) ∈ rows) :
    (rows.foldl (deferSignal nextDay) store).retryAfter signalId = .at nextDay := by
  induction rows generalizing store with
  | nil => cases hmem
  | cons row rows ih =>
      rcases List.mem_cons.mp hmem with rfl | hmem
      · refine foldl_deferSignal_of_at rows ?_
        simp [deferSignal, setRetryAfter, Nat.not_lt.mpr hcount]
      · exact ih hmem

/-! ## The day of New York -/

/-- The midnights `_enforce_attempt_limits` computes enclose the local date. -/
theorem dayBounds {day : ℕ} {dayStart nextDay : Utc}
    (hstart : datetimeOf (NewYork.toUtc day 0) = .ok dayStart)
    (hnext : datetimeOf (NewYork.toUtc (day + 1) 0) = .ok nextDay) {time : Utc}
    (htime : NewYork.date time = day) : dayStart ≤ time ∧ time < nextDay := by
  have hstart' := datetimeOf_ok hstart
  have hnext' := datetimeOf_ok hnext
  have hday : 1 ≤ day ∧ day + 1 ≤ Gregorian.maxOrdinal := by
    have hfirst := dayStart.first_day
    have hlast := nextDay.last_day
    have hlower := (NewYork.toUtc_bounds (day + 1) 0).1
    have hupper := (NewYork.toUtc_bounds day 0).2
    rw [← hstart'] at hupper
    rw [← hnext'] at hlower
    generalize Gregorian.maxOrdinal = last at *
    unfold NewYork.hour dayMicros at *
    omega
  subst htime
  obtain ⟨hlower, hupper⟩ := NewYork.date_spec hday.1 hday.2
  rw [Utc.le_def, Utc.lt_def, hstart', hnext']
  exact ⟨hlower, hupper⟩

/-- The window of the query counts every attempt of the day. -/
theorem countP_le_signalsStarted {day : ℕ} {dayStart nextDay : Utc}
    (hbounds : ∀ time, NewYork.date time = day → dayStart ≤ time ∧ time < nextDay) (store : AutoStore κ ι)
    (counted : Option SignalId → Bool) :
    (store.attempts.countP fun attempt =>
        counted attempt.1 && decide (NewYork.date attempt.2 = day)) ≤
      (store.signalsStarted dayStart nextDay).countP counted := by
  unfold attempts signalsStarted
  rw [List.countP_map, List.countP_map, List.countP_filter]
  refine List.countP_mono_left fun row _ hrow => ?_
  simp only [Function.comp_apply, Bool.and_eq_true, decide_eq_true_eq] at hrow ⊢
  obtain ⟨hafter, hbefore⟩ := hbounds row.startedAt hrow.2
  exact ⟨hrow.1, (Utc.isoformat_le _ _).mpr hafter, (Utc.isoformat_lt _ _).mpr hbefore⟩

theorem attemptsOn_le {day : ℕ} {dayStart nextDay : Utc}
    (hbounds : ∀ time, NewYork.date time = day → dayStart ≤ time ∧ time < nextDay) (store : AutoStore κ ι) :
    store.attemptsOn NewYork.date day ≤
      ((store.attemptsBySignal dayStart nextDay).map Prod.snd).sum := by
  have htotal : ((store.attemptsBySignal dayStart nextDay).map Prod.snd).sum =
      (store.signalsStarted dayStart nextDay).length := by
    have hsum := List.sum_map_count_dedup_eq_length (store.signalsStarted dayStart nextDay)
    rw [attemptsBySignal, List.map_map, ← hsum]
    refine congrArg List.sum (List.map_congr_left fun signalId _ => ?_)
    simp [List.count, beq_eq_decide]
  have hcount := countP_le_signalsStarted hbounds store fun _ => true
  rw [htotal]
  simpa [attemptsOn] using hcount

theorem signalAttemptsOn_le {day : ℕ} {dayStart nextDay : Utc}
    (hbounds : ∀ time, NewYork.date time = day → dayStart ≤ time ∧ time < nextDay) (store : AutoStore κ ι) (signalId : SignalId) :
    store.signalAttemptsOn NewYork.date signalId day ≤
      (store.signalsStarted dayStart nextDay).count (some signalId) := by
  have hcount := countP_le_signalsStarted hbounds store fun signal => decide (signal = some signalId)
  simpa [signalAttemptsOn, List.count, beq_eq_decide] using hcount

/-- After the limits let a call pass, the day has room for an attempt, and so has every
signal that may be retried. -/
theorem enforceAttemptLimits_ok {store store' : AutoStore κ ι} {current : Utc}
    (hok : store.enforceAttemptLimits current = .ok (store', true)) :
    store'.attempts = store.attempts ∧
      store.attemptsOn NewYork.date (NewYork.date current) < maxAutoBuyAttemptsPerDay ∧
      ∀ signalId, store'.retryAllowed signalId current = true →
        store.signalAttemptsOn NewYork.date signalId (NewYork.date current) <
          maxAutoSignalAttemptsPerDay := by
  obtain ⟨dayStart, hstart, hok⟩ := Except.bind_eq_ok.mp hok
  obtain ⟨nextDay, hnext, hok⟩ := Except.bind_eq_ok.mp hok
  have hbounds : ∀ time, NewYork.date time = NewYork.date current →
      dayStart ≤ time ∧ time < nextDay := fun _ => dayBounds hstart hnext
  simp only at hok
  split at hok
  · cases hok
  next htotal =>
    cases hok
    refine ⟨foldl_deferSignal_attempts _ _ _, ?_, fun signalId hallowed => ?_⟩
    · have := attemptsOn_le hbounds store
      omega
    · -- a signal without room is deferred beyond `current`
      by_contra hfull
      have hcount : maxAutoSignalAttemptsPerDay ≤
          (store.signalsStarted dayStart nextDay).count (some signalId) :=
        (Nat.not_lt.mp hfull).trans (signalAttemptsOn_le hbounds store signalId)
      have hmem : (some signalId,
          (store.signalsStarted dayStart nextDay).count (some signalId)) ∈
          store.attemptsBySignal dayStart nextDay := by
        refine List.mem_map.mpr ⟨some signalId, ?_, rfl⟩
        rw [List.mem_dedup]
        exact List.count_pos_iff.mp (Nat.lt_of_lt_of_le (by decide) hcount)
      have hlater := (hbounds current rfl).2
      rw [retryAllowed, foldl_deferSignal_retryAfter hcount _ hmem] at hallowed
      simp only [decide_eq_true_eq, Utc.le_def] at hallowed
      rw [Utc.lt_def] at hlater
      omega

theorem enforceAttemptLimits_shut {store store' : AutoStore κ ι} {current : Utc}
    (hok : store.enforceAttemptLimits current = .ok (store', false)) :
    store'.attempts = store.attempts := by
  obtain ⟨dayStart, -, hok⟩ := Except.bind_eq_ok.mp hok
  obtain ⟨nextDay, -, hok⟩ := Except.bind_eq_ok.mp hok
  simp only at hok
  split at hok
  · cases hok
    rfl
  · cases hok

/-! ## One call -/

theorem attempt_attempts (service : TradingService κ ι) (signalId : SignalId) (current : Utc)
    (store : AutoStore κ ι) :
    (attempt service signalId current store).1.attempts = store.attempts := by
  unfold attempt
  have hreview := service.createReviewApproval_keeps signalId current store
  generalize service.createReviewApproval signalId current store = reviewed at hreview ⊢
  rcases reviewed with ⟨store₁, error | review⟩
  · exact hreview
  · have hconsume := service.consumeReview_keeps review current store₁
    simp only
    generalize service.consumeReview review current store₁ = consumed at hconsume ⊢
    rcases consumed with ⟨store₂, error | execution | execution⟩
    · exact hconsume.trans hreview
    · exact hconsume.trans hreview
    · simp only
      split
      · exact hconsume.trans hreview
      · exact (service.execute_keeps execution current store₂).trans (hconsume.trans hreview)

section Call

variable [DecidableEq κ] {calendar : ExchangeCalendar} {service : TradingService κ ι}
  {store : AutoStore κ ι} {cycleId : κ} {current now : Utc}

theorem recordError_attempts {error : PyError} {cooled : Py (AutoStore κ ι)}
    (hcooled : ∀ store', cooled = .ok store' → store'.attempts = store.attempts) :
    (store.recordError cycleId now error cooled).1.attempts = store.attempts := by
  cases cooled with
  | error overflow => rfl
  | ok cooled =>
      have hkept := hcooled cooled rfl
      have hupdated : (cooled.updateCycle cycleId (AutoCycle.failed now)).attempts =
          cooled.attempts :=
        updateCycle_attempts cooled cycleId (fun _ => rfl) (fun _ => rfl) fun _ => rfl
      simp only [recordError]
      split <;> exact hupdated.trans hkept

theorem afterError_attempts (store : AutoStore κ ι) (cycleId : κ) (signalId : SignalId)
    (current now : Utc) (error : PyError) :
    (store.afterError cycleId signalId current now error).1.attempts = store.attempts := by
  unfold afterError
  exact recordError_attempts fun _ => setRetryCooldown_attempts

theorem recordReceipt_attempts (store : AutoStore κ ι) (cycleId : κ) (now : Utc)
    (receipt : OrderReceipt ι) :
    (store.recordReceipt cycleId now receipt).attempts = store.attempts := by
  have hupdated : (store.updateCycle cycleId (AutoCycle.executed now receipt)).attempts =
      store.attempts :=
    updateCycle_attempts store cycleId (fun _ => rfl) (fun _ => rfl) fun _ => rfl
  simp only [recordReceipt]
  split <;> exact hupdated

omit [DecidableEq κ] in
theorem coolRefused_attempts {store' : AutoStore κ ι} {signalId : SignalId}
    {receipt : OrderReceipt ι} (hok : store.coolRefused signalId current receipt = .ok store') :
    store'.attempts = store.attempts := by
  unfold coolRefused at hok
  split at hok
  · exact setRetryCooldown_attempts hok
  · cases hok
    rfl

theorem finishReceipt_attempts {signal : ActiveSignal} {receipt : OrderReceipt ι}
    {cooled : Py (AutoStore κ ι)}
    (hcooled : ∀ store', cooled = .ok store' → store'.attempts = store.attempts) :
    (store.finishReceipt cycleId signal now receipt cooled).1.attempts = store.attempts := by
  cases cooled with
  | error overflow => rfl
  | ok cooled => exact (recordReceipt_attempts cooled cycleId now receipt).trans (hcooled cooled rfl)

theorem afterReceipt_attempts (store : AutoStore κ ι) (cycleId : κ) (signal : ActiveSignal)
    (current now : Utc) (receipt : OrderReceipt ι) :
    (store.afterReceipt cycleId signal current now receipt).1.attempts = store.attempts := by
  simp only [afterReceipt]
  rw [finishReceipt_attempts fun _ => coolRefused_attempts]
  split <;> rfl

/-- The rest of a call keeps what the start of its cycle added. -/
theorem executeSignal_attempts (service : TradingService κ ι) (cycleId : κ)
    (signal : ActiveSignal) (current now : Utc) (store : AutoStore κ ι) :
    (executeSignal service cycleId signal current now store).1.attempts = store.attempts ∨
      (executeSignal service cycleId signal current now store).1.attempts =
        store.attempts ++ [(some signal.signalId, current)] := by
  have hstart : (store.startCycle cycleId signal current = (store, .error .integrity)) ∨
      ∃ store', store.startCycle cycleId signal current = (store', .ok ()) ∧
        store'.attempts = store.attempts ++ [(some signal.signalId, current)] := by
    simp only [startCycle, Table.insertOrIgnore]
    split
    · exact .inl rfl
    · exact .inr ⟨_, rfl, by simp [attempts]⟩
  rcases hstart with hstart | ⟨started, hstart, hadded⟩
  · refine .inl ?_
    rw [executeSignal, hstart]
  · refine .inr ?_
    rw [executeSignal, hstart, ← hadded]
    have hattempt := attempt_attempts service signal.signalId current started
    simp only
    generalize attempt service signal.signalId current started = attempted at hattempt ⊢
    rcases attempted with ⟨store₁, error | receipt⟩
    · exact (afterError_attempts store₁ cycleId signal.signalId current now error).trans hattempt
    · exact (afterReceipt_attempts store₁ cycleId signal current now receipt).trans hattempt

omit [DecidableEq κ] in
theorem nextSignal_allowed {signal : ActiveSignal}
    (hnext : store.nextSignal service current = some signal) :
    store.retryAllowed signal.signalId current = true := by
  have hmem := List.mem_of_mem_head? hnext
  rw [List.mem_insertionSort, List.mem_filter] at hmem
  exact (Bool.and_eq_true_iff.mp hmem.2).2

/-- What a call adds to the attempts of the store, and where there was room for it. -/
def Adds (calendar : ExchangeCalendar) (current : Utc) (store store' : AutoStore κ ι) : Prop :=
  store'.attempts = store.attempts ∨
    ∃ signalId, store'.attempts = store.attempts ++ [(some signalId, current)] ∧
      calendar.classifySession current = .regular ∧
      store.attemptsOn NewYork.date (NewYork.date current) < maxAutoBuyAttemptsPerDay ∧
      store.signalAttemptsOn NewYork.date signalId (NewYork.date current) <
        maxAutoSignalAttemptsPerDay

/-- A call begins at most one cycle, and only where there is room for it. -/
theorem executeOne_adds (calendar : ExchangeCalendar) (service : TradingService κ ι) (cycleId : κ)
    (current now : Utc) (store : AutoStore κ ι) :
    Adds calendar current store (executeOne calendar service cycleId current now store).1 := by
  unfold executeOne
  have hroom : ∀ store', store.enforceAttemptLimits current = .ok (store', true) → _ :=
    fun _ => enforceAttemptLimits_ok
  have hshut : ∀ store', store.enforceAttemptLimits current = .ok (store', false) →
      store'.attempts = store.attempts := fun _ => enforceAttemptLimits_shut
  generalize store.enforceAttemptLimits current = limited at hroom hshut ⊢
  rcases limited with error | ⟨store', _ | _⟩
  · exact .inl rfl
  · exact .inl (hshut store' rfl)
  · obtain ⟨hkept, hday, hsignal⟩ := hroom store' rfl
    simp only [executeWithin]
    split
    · exact .inl hkept
    · split
      · exact .inl hkept
      next hregular =>
        split
        · exact .inl hkept
        · split
          · exact .inl hkept
          next signal hnext =>
            rcases executeSignal_attempts service cycleId signal current now store' with hsame | hadded
            · exact .inl (hsame.trans hkept)
            · exact .inr ⟨signal.signalId, by rw [hadded, hkept], not_not.mp hregular, hday,
                hsignal _ (nextSignal_allowed hnext)⟩

end Call

/-! ## Runs -/

/-- The five and three of every date. -/
structure WithinLimits (dateOf : Utc → ℕ) (store : AutoStore κ ι) : Prop where
  day : ∀ day, store.attemptsOn dateOf day ≤ maxAutoBuyAttemptsPerDay
  signal : ∀ signalId day, store.signalAttemptsOn dateOf signalId day ≤ maxAutoSignalAttemptsPerDay

/-- The limits by New York date, and every attempt in a regular session. -/
structure Bounded (store : AutoStore κ ι) : Prop where
  limits : store.WithinLimits NewYork.date
  regular : ∀ attempt ∈ store.attempts, attempt.2.date = NewYork.date attempt.2

theorem WithinLimits.congr {dateOf : Utc → ℕ} {store store' : AutoStore κ ι}
    (hlimits : store.WithinLimits dateOf) (hsame : store'.attempts = store.attempts) :
    store'.WithinLimits dateOf where
  day day := by
    rw [attemptsOn, hsame]
    exact hlimits.day day
  signal signalId day := by
    rw [signalAttemptsOn, hsame]
    exact hlimits.signal signalId day

/-- A call keeps the bounds. -/
theorem Bounded.adds {calendar : ExchangeCalendar} {current : Utc} {store store' : AutoStore κ ι}
    (hbounded : store.Bounded) (hadds : Adds calendar current store store') : store'.Bounded := by
  rcases hadds with hsame | ⟨signalId, hadded, hregular, hday, hsignal⟩
  · exact ⟨hbounded.limits.congr hsame, by rw [hsame]; exact hbounded.regular⟩
  · refine ⟨⟨fun day => ?_, fun other day => ?_⟩, fun attempt hattempt => ?_⟩
    · rw [attemptsOn, hadded, List.countP_append, List.countP_singleton]
      have hbefore := hbounded.limits.day day
      rw [attemptsOn] at hbefore hday
      rcases eq_or_ne (NewYork.date current) day with rfl | hne
      · simp only [decide_true, if_true]
        omega
      · simpa [hne] using hbefore
    · rw [signalAttemptsOn, hadded, List.countP_append, List.countP_singleton]
      have hbefore := hbounded.limits.signal other day
      rw [signalAttemptsOn] at hbefore hsignal
      by_cases hboth : signalId = other ∧ NewYork.date current = day
      · obtain ⟨rfl, rfl⟩ := hboth
        simp only [decide_true, Bool.and_self, if_true]
        omega
      · simpa [hboth] using hbefore
    · rw [hadded, List.mem_append, List.mem_singleton] at hattempt
      rcases hattempt with hattempt | rfl
      · exact hbounded.regular attempt hattempt
      · exact calendar.date_of_regular hregular

/-- In the regular session the UTC date is the date of New York. -/
theorem Bounded.utc {store : AutoStore κ ι} (hbounded : store.Bounded) :
    store.WithinLimits Utc.date where
  day day := by
    refine le_of_eq_of_le (List.countP_congr fun attempt hattempt => ?_) (hbounded.limits.day day)
    rw [hbounded.regular attempt hattempt]
  signal signalId day := by
    refine le_of_eq_of_le (List.countP_congr fun attempt hattempt => ?_)
      (hbounded.limits.signal signalId day)
    rw [hbounded.regular attempt hattempt]

/-- What happens to the store.  Everything but a call is one step: updates of cycles, shorter
cooldowns, releases of the quarantine, operator commands, restarts. -/
inductive AutoStep [DecidableEq κ] (calendar : ExchangeCalendar) :
    AutoStore κ ι → AutoStore κ ι → Prop
  | executeOne (service : TradingService κ ι) (cycleId : κ) (current now : Utc)
      (store : AutoStore κ ι) :
      AutoStep calendar store (executeOne calendar service cycleId current now store).1
  | other {store store' : AutoStore κ ι} (keeps : store'.attempts = store.attempts) :
      AutoStep calendar store store'

theorem Bounded.step [DecidableEq κ] {calendar : ExchangeCalendar} {store store' : AutoStore κ ι}
    (hbounded : store.Bounded) (hstep : AutoStep calendar store store') : store'.Bounded := by
  cases hstep with
  | executeOne service cycleId current now =>
      exact hbounded.adds (executeOne_adds calendar service cycleId current now store)
  | other hsame => exact ⟨hbounded.limits.congr hsame, by rw [hsame]; exact hbounded.regular⟩

end AutoStore

open AutoStore in
/-- Whatever the attempts end in and whatever happens in between, no date of New York and no
date of UTC sees more than five AUTO cycles, or more than three of one signal. -/
theorem auto_attempts_within_limits [DecidableEq κ] {calendar : ExchangeCalendar}
    {repo : Repository ι} {store : AutoStore κ ι}
    (hrun : Relation.ReflTransGen (AutoStep calendar) { repo := repo } store) :
    store.WithinLimits NewYork.date ∧ store.WithinLimits Utc.date := by
  have hbounded : store.Bounded := by
    induction hrun with
    | refl => exact ⟨⟨fun _ => Nat.zero_le _, fun _ _ => Nat.zero_le _⟩, by rintro _ ⟨⟩⟩
    | tail _ hstep ih => exact ih.step hstep
  exact ⟨hbounded.limits, hbounded.utc⟩

private theorem oneSession_hours :
    NewYork.toUtc 740168 (9 * NewYork.hour + NewYork.hour / 2)
        ≤ 740168 * dayMicros + 27 * NewYork.hour / 2 ∧
      740168 * dayMicros + 20 * NewYork.hour ≤ NewYork.toUtc 740168 (16 * NewYork.hour) := by
  decide +kernel

/-- A calendar with the one session of 2027-07-06. -/
def ExchangeCalendar.oneSession : ExchangeCalendar where
  session day :=
    if day = 740168 then
      some (⟨740168 * dayMicros + 27 * NewYork.hour / 2, by decide, by decide⟩,
        ⟨740168 * dayMicros + 20 * NewYork.hour, by decide, by decide⟩)
    else none
  hours := by
    intro day sessionOpen sessionClose hsession
    split at hsession
    next hday =>
      cases hsession
      rw [hday]
      exact oneSession_hours
    · cases hsession

namespace Refused

/-- A trading service with one signal, whose review is refused. -/
def service : TradingService ℕ ℕ where
  activeSignals _ := [⟨7, .allocation .qqq, .coreRebalanceBuy⟩]
  createReviewApproval _ _ store := (store, .error (.other "ApprovalError"))
  consumeReview _ _ store := (store, .error .key)
  execute _ _ store := (store, .error .key)
  createReviewApproval_keeps _ _ _ := rfl
  consumeReview_keeps _ _ _ := rfl
  execute_keeps _ _ _ := rfl

/-- Noon of New York on 2027-07-06. -/
def noon : Utc := ⟨740168 * dayMicros + 16 * NewYork.hour, by decide, by decide⟩

/-- An account that is ready to buy. -/
def repo : Repository ℕ := (Repository.initial ℕ).setSystem {
  launchAuthorized := some true
  startupQuarantine := some false
  autoState := some .running
  operatorBuyHalt := some false
  targetQtyGeneration := some 740168 }

/-- A call, after which the cooldown is forgotten. -/
def retry (store : AutoStore ℕ ℕ) (cycleId : ℕ) : AutoStore ℕ ℕ :=
  { (store.executeOne .oneSession service cycleId noon noon).1 with retryAfter := fun _ => .empty }

-- The fourth call begins no cycle.
example : ([0, 1, 2, 3].foldl retry { repo := repo }).attempts.length = 3 := by decide +kernel

end Refused

open AutoStore Refused in
theorem auto_attempts_within_limits_refused :
    (executeOne .oneSession service 0 noon noon { repo := repo }).1.WithinLimits NewYork.date ∧
      (executeOne .oneSession service 0 noon noon { repo := repo }).1.WithinLimits Utc.date :=
  auto_attempts_within_limits (.single (.executeOne service 0 noon noon { repo := repo }))

end JdHoldings

import JdHoldings.Library.Calendar

/-!
# The market clock

New York local time and the sessions of the exchange.

New York is five hours behind UTC, and four hours between the second Sunday of
March and the first Sunday of November.  Both changes happen at two in the
morning, so that no local midnight is skipped or repeated and
`NewYork.date_eq` can say which timestamps belong to a local date.

The session table comes from a calendar package.  A session lies between 09:30
and 16:00 New York time on its date; early closes are inside.
-/

/-! ## New York -/

namespace NewYork

def hour : ℤ := 3600000000

/-- The first Sunday on or after the day. -/
def sundayFrom (day : ℕ) : ℕ := day + (7 - day % 7) % 7

/-- The second Sunday of March. -/
def daylightStart (year : ℕ) : ℕ :=
  sundayFrom (Gregorian.daysBeforeYear year + Gregorian.daysBeforeMonth year 3 + 8)

/-- The first Sunday of November. -/
def daylightEnd (year : ℕ) : ℕ :=
  sundayFrom (Gregorian.daysBeforeYear year + Gregorian.daysBeforeMonth year 11 + 1)

/-- The microseconds New York is behind UTC, by the rule in force since 2007.  It is applied to
every year, also to those before, when the clocks changed on other Sundays. -/
def offset (time : Utc) : ℤ :=
  let year := Gregorian.year time.date
  if daylightStart year * dayMicros + 7 * hour ≤ time.micros ∧
      time.micros < daylightEnd year * dayMicros + 6 * hour then 4 * hour else 5 * hour

/-- `astimezone(NEW_YORK_TZ).date()`, 0 before the first date. -/
def date (time : Utc) : ℕ := ((time.micros - offset time) / dayMicros).toNat

/-- The UTC microseconds of a local date and time of day.  A time of day that the
change of the clocks repeats is taken the first time, one it skips is taken in
standard time. -/
def toUtc (day : ℕ) (timeOfDay : ℤ) : ℤ :=
  let year := Gregorian.year day
  let wall := day * dayMicros + timeOfDay
  if daylightStart year * dayMicros + 3 * hour ≤ wall ∧
      wall < daylightEnd year * dayMicros + 2 * hour then wall + 4 * hour else wall + 5 * hour

theorem offset_cases (time : Utc) :
    daylightStart (Gregorian.year time.date) * dayMicros + 7 * hour ≤ time.micros ∧
        time.micros < daylightEnd (Gregorian.year time.date) * dayMicros + 6 * hour ∧
        offset time = 4 * hour ∨
      ¬(daylightStart (Gregorian.year time.date) * dayMicros + 7 * hour ≤ time.micros ∧
        time.micros < daylightEnd (Gregorian.year time.date) * dayMicros + 6 * hour) ∧
        offset time = 5 * hour := by
  simp only [offset]
  split
  next hsummer => exact .inl ⟨hsummer.1, hsummer.2, rfl⟩
  next hwinter => exact .inr ⟨hwinter, rfl⟩

theorem toUtc_cases (day : ℕ) (timeOfDay : ℤ) :
    daylightStart (Gregorian.year day) * dayMicros + 3 * hour ≤ day * dayMicros + timeOfDay ∧
        day * dayMicros + timeOfDay < daylightEnd (Gregorian.year day) * dayMicros + 2 * hour ∧
        toUtc day timeOfDay = day * dayMicros + timeOfDay + 4 * hour ∨
      ¬(daylightStart (Gregorian.year day) * dayMicros + 3 * hour ≤ day * dayMicros + timeOfDay ∧
        day * dayMicros + timeOfDay < daylightEnd (Gregorian.year day) * dayMicros + 2 * hour) ∧
        toUtc day timeOfDay = day * dayMicros + timeOfDay + 5 * hour := by
  simp only [toUtc]
  split
  next hsummer => exact .inl ⟨hsummer.1, hsummer.2, rfl⟩
  next hwinter => exact .inr ⟨hwinter, rfl⟩

theorem toUtc_bounds (day : ℕ) (timeOfDay : ℤ) :
    day * dayMicros + timeOfDay + 4 * hour ≤ toUtc day timeOfDay ∧
      toUtc day timeOfDay ≤ day * dayMicros + timeOfDay + 5 * hour := by
  rcases toUtc_cases day timeOfDay with ⟨-, -, heq⟩ | ⟨-, heq⟩ <;> rw [heq] <;> unfold hour <;> omega

theorem offset_bounds (time : Utc) : 4 * hour ≤ offset time ∧ offset time ≤ 5 * hour := by
  rcases offset_cases time with ⟨-, -, heq⟩ | ⟨-, heq⟩ <;> rw [heq] <;> unfold hour <;> omega

/-- Daylight time begins and ends well inside its year. -/
theorem daylight_inside {year : ℕ} (hyear : 1 ≤ year) :
    Gregorian.daysBeforeYear year + 60 < daylightStart year ∧
      daylightStart year < daylightEnd year ∧
      daylightEnd year + 30 < Gregorian.daysBeforeYear (year + 1) := by
  have hlength := (Gregorian.daysBeforeYear_succ hyear).1
  unfold daylightStart daylightEnd sundayFrom Gregorian.daysBeforeMonth
  simp
  split <;> omega

theorem micros_bounds {time : Utc} (hday : 1 ≤ date time) :
    date time * dayMicros + offset time ≤ time.micros ∧
      time.micros < (date time + 1) * dayMicros + offset time := by
  unfold date dayMicros at *
  omega

/-- Midnights and a timestamp in one year. -/
private theorem between_midnights {day starts ends offset micros first second : ℤ}
    (horder : starts < ends)
    (hlower : day * dayMicros + offset ≤ micros) (hupper : micros < (day + 1) * dayMicros + offset)
    (hoffset : starts * dayMicros + 7 * hour ≤ micros ∧ micros < ends * dayMicros + 6 * hour ∧
        offset = 4 * hour ∨
      ¬(starts * dayMicros + 7 * hour ≤ micros ∧ micros < ends * dayMicros + 6 * hour) ∧
        offset = 5 * hour)
    (hfirst : starts * dayMicros + 3 * hour ≤ day * dayMicros + 0 ∧
        day * dayMicros + 0 < ends * dayMicros + 2 * hour ∧ first = day * dayMicros + 0 + 4 * hour ∨
      ¬(starts * dayMicros + 3 * hour ≤ day * dayMicros + 0 ∧
        day * dayMicros + 0 < ends * dayMicros + 2 * hour) ∧ first = day * dayMicros + 0 + 5 * hour)
    (hsecond : starts * dayMicros + 3 * hour ≤ (day + 1) * dayMicros + 0 ∧
        (day + 1) * dayMicros + 0 < ends * dayMicros + 2 * hour ∧
        second = (day + 1) * dayMicros + 0 + 4 * hour ∨
      ¬(starts * dayMicros + 3 * hour ≤ (day + 1) * dayMicros + 0 ∧
        (day + 1) * dayMicros + 0 < ends * dayMicros + 2 * hour) ∧
        second = (day + 1) * dayMicros + 0 + 5 * hour) :
    first ≤ micros ∧ micros < second := by
  unfold hour dayMicros at *
  omega

/-- Before its start and after its end daylight time plays no part. -/
private theorem offset_standard {time : Utc} {starts ends : ℤ}
    (hstarts : daylightStart (Gregorian.year time.date) = starts)
    (hends : daylightEnd (Gregorian.year time.date) = ends)
    (houtside : time.micros < starts * dayMicros ∨ (ends + 1) * dayMicros ≤ time.micros) :
    offset time = 5 * hour := by
  have hcases := offset_cases time
  rw [hstarts, hends] at hcases
  clear hstarts hends
  unfold hour dayMicros at *
  omega

private theorem toUtc_standard {day : ℕ} {starts ends : ℤ}
    (hstarts : daylightStart (Gregorian.year day) = starts)
    (hends : daylightEnd (Gregorian.year day) = ends) (houtside : day < starts ∨ ends < day) :
    toUtc day 0 = day * dayMicros + 5 * hour := by
  have hcases := toUtc_cases day 0
  rw [hstarts, hends] at hcases
  clear hstarts hends
  unfold hour dayMicros at *
  omega

theorem utc_date (time : Utc) : time.date = date time ∨ time.date = date time + 1 := by
  have hoffset := offset_bounds time
  unfold date Utc.date
  unfold dayMicros hour at *
  omega

/-- A timestamp lies between the two midnights of its local date. -/
theorem date_spec {time : Utc} (hday : 1 ≤ date time) (hmax : date time + 1 ≤ Gregorian.maxOrdinal) :
    toUtc (date time) 0 ≤ time.micros ∧ time.micros < toUtc (date time + 1) 0 := by
  obtain ⟨hone, -, hlt, hle⟩ := Gregorian.year_spec hday (by omega)
  obtain ⟨hstart, horder, hend⟩ := daylight_inside hone
  obtain ⟨hlower, hupper⟩ := micros_bounds hday
  have hutc := utc_date time
  rcases Gregorian.year_succ hday hmax with hsame | ⟨hnext, hlast⟩
  · -- both midnights and the timestamp are in one year
    have hyear : Gregorian.year time.date = Gregorian.year (date time) := by
      rcases hutc with h | h
      · rw [h]
      · rw [h, hsame]
    have hoffset := offset_cases time
    have hfirst := toUtc_cases (date time) 0
    have hsecond := toUtc_cases (date time + 1) 0
    rw [hyear] at hoffset
    rw [hsame, Nat.cast_add, Nat.cast_one] at hsecond
    exact between_midnights (Int.ofNat_lt.mpr horder) hlower hupper hoffset hfirst hsecond
  · -- the turn of the year is in standard time
    have hlater : 1 ≤ Gregorian.year (date time) + 1 := by omega
    obtain ⟨hstart', -, -⟩ := daylight_inside hlater
    obtain ⟨hfrom, hto⟩ := time.date_spec
    -- Which of the two years the timestamp is in makes no difference to the offset.
    have hstandard : offset time = 5 * hour := by
      rcases hutc with h | h
      · have hbefore : ((daylightEnd (Gregorian.year time.date) : ℤ) + 1) * dayMicros ≤
            time.date * dayMicros := by
          refine mul_le_mul_of_nonneg_right ?_ (by decide)
          rw [h]
          omega
        exact offset_standard rfl rfl (.inr (hbefore.trans hfrom))
      · have hafter : ((time.date : ℤ) + 1) * dayMicros ≤
            daylightStart (Gregorian.year time.date) * dayMicros := by
          refine mul_le_mul_of_nonneg_right ?_ (by decide)
          rw [h, hnext]
          omega
        exact offset_standard rfl rfl (.inl (hto.trans_le hafter))
    have hfirst : toUtc (date time) 0 = (date time : ℕ) * dayMicros + 5 * hour :=
      toUtc_standard rfl rfl (.inr (by omega))
    have hsecond : toUtc (date time + 1) 0 = (date time + 1 : ℕ) * dayMicros + 5 * hour :=
      toUtc_standard rfl rfl (.inl (by rw [hnext]; omega))
    rw [hfirst, hsecond]
    rw [hstandard] at hlower hupper
    push_cast
    exact ⟨hlower, hupper⟩

end NewYork

/-! ## Sessions -/

namespace JdHoldings

/-- The names `classify_session` returns. -/
inductive MarketSession where
  | regular
  | preMarket
  | afterHours
  | closed
deriving DecidableEq, Repr

/-- The XNYS calendar: the open and the close of the session of a date. -/
structure ExchangeCalendar where
  session : ℕ → Option (Utc × Utc)
  /-- Sessions lie between 09:30 and 16:00 New York time. -/
  hours : ∀ {day : ℕ} {sessionOpen sessionClose : Utc},
    session day = some (sessionOpen, sessionClose) →
      NewYork.toUtc day (9 * NewYork.hour + NewYork.hour / 2) ≤ sessionOpen.micros ∧
        sessionClose.micros ≤ NewYork.toUtc day (16 * NewYork.hour)

/-- `MarketClock.classify_session`. -/
def ExchangeCalendar.classifySession (calendar : ExchangeCalendar) (current : Utc) :
    MarketSession :=
  match calendar.session (NewYork.date current) with
  | none => .closed
  | some (regularOpen, regularClose) =>
      if regularOpen ≤ current ∧ current ≤ regularClose then .regular
      else if regularOpen.micros - (5 * NewYork.hour + NewYork.hour / 2) ≤ current.micros ∧
          current < regularOpen then .preMarket
      else if regularClose < current ∧
          current.micros ≤ regularClose.micros + 4 * NewYork.hour then .afterHours
      else .closed

/-- The regular session lies within one UTC date, the date of New York. -/
theorem ExchangeCalendar.date_of_regular {calendar : ExchangeCalendar} {current : Utc}
    (hregular : calendar.classifySession current = .regular) :
    current.date = NewYork.date current := by
  unfold classifySession at hregular
  split at hregular
  · cases hregular
  next sessionOpen sessionClose hsession =>
    split at hregular
    next hinside =>
      obtain ⟨hopen, hclose⟩ := calendar.hours hsession
      obtain ⟨hafter, hbefore⟩ := hinside
      rw [Utc.le_def] at hafter hbefore
      have hfrom := (NewYork.toUtc_bounds (NewYork.date current)
        (9 * NewYork.hour + NewYork.hour / 2)).1
      have hto := (NewYork.toUtc_bounds (NewYork.date current) (16 * NewYork.hour)).2
      unfold Utc.date
      generalize NewYork.date current = day at *
      unfold NewYork.hour dayMicros at *
      omega
    · split at hregular <;> try split at hregular
      all_goals cases hregular

end JdHoldings

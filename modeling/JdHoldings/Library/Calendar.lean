import Mathlib.Data.Nat.Find
import Mathlib.Data.List.Lex
import Mathlib.Tactic.IntervalCases

/-!
# Dates, UTC timestamps and their ISO texts

Dates of the proleptic Gregorian calendar are the ordinals of `toordinal`: day 1
is the first of January of year 1.  A UTC timestamp counts microseconds from the
midnight before day 1, so that its date is the quotient by a day.

A store that keeps timestamps as text compares texts.  `isoformat` writes the
microseconds only when there are some, so the texts are not of one length; text
order is time order all the same (`isoformat_lt`).
-/

/-! ## Texts of one length -/

namespace List

/-- After fronts of one length, the backs decide only where the fronts agree. -/
theorem append_lt_append_iff {α : Type*} [LT α] {front front' back back' : List α}
    (hlength : front.length = front'.length) :
    front ++ back < front' ++ back' ↔ front < front' ∨ front = front' ∧ back < back' := by
  induction front generalizing front' with
  | nil =>
      have hnil : front' = [] := List.length_eq_zero_iff.mp hlength.symm
      simp [hnil]
  | cons a front ih =>
      cases front' with
      | nil => simp at hlength
      | cons b front' =>
          rw [List.cons_append, List.cons_append, List.cons_lt_cons_iff, List.cons_lt_cons_iff,
            ih (Nat.succ.inj hlength), List.cons.injEq]
          tauto

end List

namespace Iso

/-- The ASCII bytes of the last `width` decimal digits, padded with zeros. -/
def padded : ℕ → ℕ → List ℕ
  | 0, _ => []
  | width + 1, n => padded width (n / 10) ++ [48 + n % 10]

@[simp] theorem length_padded (width n : ℕ) : (padded width n).length = width := by
  induction width generalizing n with
  | zero => rfl
  | succ width ih => simp [padded, ih]

/-- Numbers that fit into the width compare as their digits do. -/
theorem padded_lt {width n m : ℕ} (hn : n < 10 ^ width) (hm : m < 10 ^ width) :
    padded width n < padded width m ↔ n < m := by
  induction width generalizing n m with
  | zero =>
      simp only [Nat.pow_zero, Nat.lt_one_iff] at hn hm
      simp [hn, hm]
  | succ width ih =>
      rw [Nat.pow_succ] at hn hm
      have hfront := @ih (n / 10) (m / 10) (by omega) (by omega)
      have hfront' := @ih (m / 10) (n / 10) (by omega) (by omega)
      have hsame : padded width (n / 10) = padded width (m / 10) ↔ n / 10 = m / 10 := by
        constructor
        · intro heq
          rw [heq] at hfront hfront'
          have hlt := mt hfront.mpr (List.lt_irrefl _)
          have hgt := mt hfront'.mpr (List.lt_irrefl _)
          omega
        · intro heq
          rw [heq]
      rw [padded, padded, List.append_lt_append_iff (by simp), hfront, hsame,
        List.cons_lt_cons_iff]
      simp only [List.not_lt_nil, and_false, or_false]
      omega

theorem padded_inj {width n m : ℕ} (hn : n < 10 ^ width) (hm : m < 10 ^ width) :
    padded width n = padded width m ↔ n = m := by
  constructor
  · intro heq
    have hlt := mt (padded_lt hn hm).mpr (by rw [heq]; exact List.lt_irrefl _)
    have hgt := mt (padded_lt hm hn).mpr (by rw [heq]; exact List.lt_irrefl _)
    omega
  · intro heq
    rw [heq]

theorem padded_append_lt {width n m : ℕ} {back back' : List ℕ} (hn : n < 10 ^ width)
    (hm : m < 10 ^ width) :
    padded width n ++ back < padded width m ++ back' ↔ n < m ∨ n = m ∧ back < back' := by
  rw [List.append_lt_append_iff (by simp), padded_lt hn hm, padded_inj hn hm]

end Iso

/-! ## Dates -/

namespace Gregorian

def isLeap (year : ℕ) : Bool := year % 4 = 0 && (year % 100 ≠ 0 || year % 400 = 0)

/-- The days before January 1 of the year. -/
def daysBeforeYear (year : ℕ) : ℕ :=
  (year - 1) * 365 + (year - 1) / 4 - (year - 1) / 100 + (year - 1) / 400

/-- The days of the year before the first of the month. -/
def daysBeforeMonth (year month : ℕ) : ℕ :=
  [0, 31, 59, 90, 120, 151, 181, 212, 243, 273, 304, 334].getD (month - 1) 0 +
    if 2 < month ∧ isLeap year then 1 else 0

/-- The last ordinal, December 31 of year 9999. -/
def maxOrdinal : ℕ := 3652059

def year (day : ℕ) : ℕ := Nat.findGreatest (fun year => daysBeforeYear year < day) 9999

def dayOfYear (day : ℕ) : ℕ := day - daysBeforeYear (year day)

def month (day : ℕ) : ℕ :=
  Nat.findGreatest (fun month => daysBeforeMonth (year day) month < dayOfYear day) 12

def dayOfMonth (day : ℕ) : ℕ := dayOfYear day - daysBeforeMonth (year day) (month day)

theorem daysBeforeYear_succ {year : ℕ} (hyear : 1 ≤ year) :
    daysBeforeYear year + 365 ≤ daysBeforeYear (year + 1) ∧
      daysBeforeYear (year + 1) ≤ daysBeforeYear year + 366 := by
  obtain ⟨n, rfl⟩ : ∃ n, year = n + 1 := ⟨year - 1, by omega⟩
  simp only [daysBeforeYear, Nat.add_sub_cancel]
  omega

theorem daysBeforeYear_lt {first second : ℕ} (hfirst : 1 ≤ first) (hlt : first < second) :
    daysBeforeYear first + 365 ≤ daysBeforeYear second := by
  induction second with
  | zero => omega
  | succ second ih =>
      have hsecond : 1 ≤ second := by omega
      have hsucc := daysBeforeYear_succ hsecond
      rcases Nat.lt_succ_iff_lt_or_eq.mp hlt with hlt | rfl
      · have := ih hlt
        omega
      · exact hsucc.1

/-- A day lies in its year. -/
theorem year_spec {day : ℕ} (hday : 1 ≤ day) (hmax : day ≤ maxOrdinal) :
    1 ≤ year day ∧ year day ≤ 9999 ∧ daysBeforeYear (year day) < day ∧
      day ≤ daysBeforeYear (year day + 1) := by
  have hone : daysBeforeYear 1 < day := hday
  refine ⟨Nat.le_findGreatest (by decide) hone, Nat.findGreatest_le _,
    Nat.findGreatest_spec (P := fun year => daysBeforeYear year < day) (by decide) hone, ?_⟩
  rcases Nat.lt_or_ge (year day) 9999 with hlt | hge
  · exact Nat.not_lt.mp (Nat.findGreatest_is_greatest
      (P := fun year => daysBeforeYear year < day) (k := year day + 1) (Nat.lt_succ_self _) hlt)
  · have hlast : year day = 9999 := le_antisymm (Nat.findGreatest_le _) hge
    rw [hlast]
    exact hmax

theorem year_eq {day y : ℕ} (hday : 1 ≤ day) (hmax : day ≤ maxOrdinal) (hy : 1 ≤ y)
    (hafter : daysBeforeYear y < day) (hbefore : day ≤ daysBeforeYear (y + 1)) :
    year day = y := by
  obtain ⟨hone, -, hlt, hle⟩ := year_spec hday hmax
  rcases Nat.lt_trichotomy (year day) y with hless | heq | hmore
  · rcases Nat.lt_or_ge (year day + 1) y with h | h
    · have := daysBeforeYear_lt (by omega) h
      omega
    · have : y = year day + 1 := by omega
      rw [this] at hafter
      omega
  · exact heq
  · rcases Nat.lt_or_ge (y + 1) (year day) with h | h
    · have := daysBeforeYear_lt (by omega) h
      omega
    · have : year day = y + 1 := by omega
      rw [this] at hlt
      omega

/-- The next day is in the same year, or the first of the next one. -/
theorem year_succ {day : ℕ} (hday : 1 ≤ day) (hmax : day + 1 ≤ maxOrdinal) :
    year (day + 1) = year day ∨
      year (day + 1) = year day + 1 ∧ day = daysBeforeYear (year day + 1) := by
  obtain ⟨hone, -, hlt, hle⟩ := year_spec hday (by omega)
  have hlater : 1 ≤ year day + 1 := by omega
  have hnext := (daysBeforeYear_succ hlater).1
  rcases Nat.lt_or_eq_of_le hle with hbefore | hlast
  · exact .inl (year_eq (by omega) hmax hone (by omega) hbefore)
  · exact .inr ⟨year_eq (by omega) hmax (by omega) (by omega) (by omega), hlast⟩

private theorem monthLength_le {y m : ℕ} (hm : 1 ≤ m) (hm' : m < 12) :
    daysBeforeMonth y (m + 1) ≤ daysBeforeMonth y m + 31 := by
  unfold daysBeforeMonth
  rcases Bool.eq_false_or_eq_true (isLeap y) with h | h <;> simp only [h] <;>
    interval_cases m <;> decide

/-- A day lies in its month. -/
theorem month_spec {day : ℕ} (hday : 1 ≤ day) (hmax : day ≤ maxOrdinal) :
    month day ≤ 12 ∧ daysBeforeMonth (year day) (month day) < dayOfYear day ∧
      dayOfMonth day ≤ 32 := by
  obtain ⟨hone, -, hlt, hle⟩ := year_spec hday hmax
  have hlength := (daysBeforeYear_succ hone).2
  have hfirst : daysBeforeMonth (year day) 1 < dayOfYear day := by
    simp only [daysBeforeMonth, dayOfYear]
    simp
    omega
  have hmonth : 1 ≤ month day := Nat.le_findGreatest (by decide) hfirst
  have hspec : daysBeforeMonth (year day) (month day) < dayOfYear day :=
    Nat.findGreatest_spec (P := fun month => daysBeforeMonth (year day) month < dayOfYear day)
      (by decide) hfirst
  have hbound : month day ≤ 12 := Nat.findGreatest_le _
  refine ⟨hbound, hspec, ?_⟩
  rcases Nat.lt_or_ge (month day) 12 with hless | hge
  · have hnext : dayOfYear day ≤ daysBeforeMonth (year day) (month day + 1) :=
      Nat.not_lt.mp (Nat.findGreatest_is_greatest
        (P := fun month => daysBeforeMonth (year day) month < dayOfYear day) (k := month day + 1)
        (Nat.lt_succ_self _) hless)
    have := monthLength_le (y := year day) hmonth hless
    unfold dayOfMonth
    omega
  · have hlast : month day = 12 := Nat.le_antisymm hbound hge
    have : 334 ≤ daysBeforeMonth (year day) 12 := Nat.le_add_right _ _
    unfold dayOfMonth dayOfYear
    rw [hlast]
    omega

/-- Every field of a date fits its width. -/
theorem fields_bound {day : ℕ} (hday : 1 ≤ day) (hmax : day ≤ maxOrdinal) :
    year day < 10 ^ 4 ∧ month day < 10 ^ 2 ∧ dayOfMonth day < 10 ^ 2 := by
  have hyear := (year_spec hday hmax).2.1
  obtain ⟨hmonth, -, hdom⟩ := month_spec hday hmax
  exact ⟨by omega, by omega, by omega⟩

/-- Dates are ordered by year, then month, then day. -/
theorem fields_lt {day day' : ℕ} (hday : 1 ≤ day) (hmax : day' ≤ maxOrdinal) (hlt : day < day') :
    year day < year day' ∨ year day = year day' ∧
      (month day < month day' ∨ month day = month day' ∧ dayOfMonth day < dayOfMonth day') := by
  have hin := (year_spec hday (hlt.le.trans hmax)).2.2.1
  have hin' := (year_spec (hday.trans hlt.le) hmax).2.2.1
  have hyear : year day ≤ year day' := Nat.findGreatest_mono (fun _ h => Nat.lt_trans h hlt) le_rfl
  rcases Nat.lt_or_eq_of_le hyear with h | hyear
  · exact .inl h
  · have hdoy : dayOfYear day < dayOfYear day' := by
      unfold dayOfYear
      rw [← hyear] at hin' ⊢
      omega
    have hmonth : month day ≤ month day' := by
      unfold month
      rw [← hyear]
      exact Nat.findGreatest_mono (fun _ h => Nat.lt_trans h hdoy) le_rfl
    refine .inr ⟨hyear, ?_⟩
    rcases Nat.lt_or_eq_of_le hmonth with h | hmonth
    · exact .inl h
    · have hspec := (month_spec hday (hlt.le.trans hmax)).2.1
      refine .inr ⟨hmonth, ?_⟩
      unfold dayOfMonth
      rw [← hyear, ← hmonth]
      omega

end Gregorian

/-! ## Timestamps -/

/-- Microseconds of a day. -/
def dayMicros : ℤ := 86400000000

/-- A UTC timestamp. -/
structure Utc where
  micros : ℤ
  first_day : dayMicros ≤ micros
  last_day : micros < (Gregorian.maxOrdinal + 1) * dayMicros
deriving DecidableEq, Repr

namespace Utc

instance : LE Utc := ⟨fun first second => first.micros ≤ second.micros⟩

instance : LT Utc := ⟨fun first second => first.micros < second.micros⟩

instance (first second : Utc) : Decidable (first ≤ second) :=
  inferInstanceAs (Decidable (first.micros ≤ second.micros))

instance (first second : Utc) : Decidable (first < second) :=
  inferInstanceAs (Decidable (first.micros < second.micros))

theorem le_def {first second : Utc} : first ≤ second ↔ first.micros ≤ second.micros := Iff.rfl

theorem lt_def {first second : Utc} : first < second ↔ first.micros < second.micros := Iff.rfl

/-- The timestamp, when it is in the range of `datetime`. -/
def ofMicros? (micros : ℤ) : Option Utc :=
  if h : dayMicros ≤ micros ∧ micros < (Gregorian.maxOrdinal + 1) * dayMicros then
    some ⟨micros, h.1, h.2⟩
  else none

theorem micros_of_ofMicros? {micros : ℤ} {time : Utc} (htime : ofMicros? micros = some time) :
    time.micros = micros := by
  unfold ofMicros? at htime
  split at htime
  · cases htime
    rfl
  · cases htime

/-- The UTC date, as its ordinal. -/
def date (time : Utc) : ℕ := (time.micros / dayMicros).toNat

def second (time : Utc) : ℕ := (time.micros / 1000000).toNat

def microsecond (time : Utc) : ℕ := (time.micros % 1000000).toNat

/-- What follows the seconds: the microseconds, if there are any, and `+00:00`. -/
def isoTail (microsecond : ℕ) : List ℕ :=
  (if microsecond = 0 then [] else 46 :: Iso.padded 6 microsecond) ++
    [43, 48, 48, 58, 48, 48]

/-- The bytes of `isoformat()`: `YYYY-MM-DDTHH:MM:SS[.ffffff]+00:00`. -/
def isoformat (time : Utc) : List ℕ :=
  let day := time.date
  let second := time.second
  Iso.padded 4 (Gregorian.year day) ++ 45 :: (Iso.padded 2 (Gregorian.month day) ++
    45 :: (Iso.padded 2 (Gregorian.dayOfMonth day) ++
      84 :: (Iso.padded 2 (second / 3600 % 24) ++ 58 :: (Iso.padded 2 (second / 60 % 60) ++
        58 :: (Iso.padded 2 (second % 60) ++ isoTail time.microsecond)))))

theorem date_bounds (time : Utc) : 1 ≤ time.date ∧ time.date ≤ Gregorian.maxOrdinal := by
  have hfirst := time.first_day
  have hlast := time.last_day
  unfold date dayMicros Gregorian.maxOrdinal at *
  omega

/-- A timestamp lies in its date. -/
theorem date_spec (time : Utc) :
    time.date * dayMicros ≤ time.micros ∧ time.micros < (time.date + 1) * dayMicros := by
  have hfirst := time.first_day
  unfold date dayMicros at *
  omega

theorem microsecond_lt (time : Utc) : time.microsecond < 10 ^ 6 := by
  unfold microsecond
  omega

/-- A plus sign comes before a point, so a whole second has the least tail. -/
private theorem isoTail_lt {first second : ℕ} (hfirst : first < 10 ^ 6) (hsecond : second < 10 ^ 6) :
    isoTail first < isoTail second ↔ first < second := by
  unfold isoTail
  rcases eq_or_ne first 0 with rfl | hne
  · rcases eq_or_ne second 0 with rfl | hne'
    · simp
    · simp [hne', List.cons_lt_cons_iff]
      omega
  · rcases eq_or_ne second 0 with rfl | hne'
    · simp [hne, List.cons_lt_cons_iff]
    · rw [if_neg hne, if_neg hne', List.cons_append, List.cons_append, List.cons_lt_cons_iff,
        Iso.padded_append_lt hfirst hsecond]
      simp

theorem eq_natCast (time : Utc) : ∃ n : ℕ, time.micros = n := by
  have hfirst := time.first_day
  exact ⟨time.micros.toNat, by unfold dayMicros at hfirst; omega⟩

/-- On one date the hours, minutes, seconds and microseconds decide. -/
private theorem timeOfDay_lt {time boundary : Utc} (hdate : time.date = boundary.date) :
    (time.second / 3600 % 24 < boundary.second / 3600 % 24 ∨
        time.second / 3600 % 24 = boundary.second / 3600 % 24 ∧
          (time.second / 60 % 60 < boundary.second / 60 % 60 ∨
            time.second / 60 % 60 = boundary.second / 60 % 60 ∧
              (time.second % 60 < boundary.second % 60 ∨
                time.second % 60 = boundary.second % 60 ∧
                  time.microsecond < boundary.microsecond))) ↔
      time.micros < boundary.micros := by
  obtain ⟨n, hn⟩ := time.eq_natCast
  obtain ⟨m, hm⟩ := boundary.eq_natCast
  have hday : n / 86400000000 = m / 86400000000 := by
    unfold date dayMicros at hdate
    omega
  have hsecond : time.second = n / 1000000 := by unfold second; omega
  have hsecond' : boundary.second = m / 1000000 := by unfold second; omega
  have hmicro : time.microsecond = n % 1000000 := by unfold microsecond; omega
  have hmicro' : boundary.microsecond = m % 1000000 := by unfold microsecond; omega
  rw [hsecond, hsecond', hmicro, hmicro', hn, hm]
  clear hdate hsecond hsecond' hmicro hmicro' hn hm
  omega

/-- The texts compare as the times do. -/
theorem isoformat_lt (time boundary : Utc) :
    time.isoformat < boundary.isoformat ↔ time < boundary := by
  obtain ⟨hone, hmax⟩ := time.date_bounds
  obtain ⟨hone', hmax'⟩ := boundary.date_bounds
  obtain ⟨hy, hm, hd⟩ := Gregorian.fields_bound hone hmax
  obtain ⟨hy', hm', hd'⟩ := Gregorian.fields_bound hone' hmax'
  have hless := Gregorian.fields_lt hone hmax'
  have hmore := Gregorian.fields_lt hone' hmax
  have hmicro := time.microsecond_lt
  have hmicro' := boundary.microsecond_lt
  have htail := isoTail_lt hmicro hmicro'
  unfold isoformat
  simp only
  -- Fixed widths: the texts compare field by field, year first.
  rw [Iso.padded_append_lt hy hy', List.cons_lt_cons_iff, Iso.padded_append_lt hm hm',
    List.cons_lt_cons_iff, Iso.padded_append_lt hd hd', List.cons_lt_cons_iff,
    Iso.padded_append_lt (by omega) (by omega), List.cons_lt_cons_iff,
    Iso.padded_append_lt (by omega) (by omega), List.cons_lt_cons_iff,
    Iso.padded_append_lt (by omega) (by omega)]
  simp only [htail, Nat.lt_irrefl, true_and, false_or]
  rw [lt_def]
  rcases Nat.lt_trichotomy time.date boundary.date with hlt | heq | hgt
  · -- An earlier date decides before the time of day is read.
    have hfields := hless hlt
    have htime : time.micros < boundary.micros := by
      have hfirst := boundary.first_day
      unfold date dayMicros at *
      omega
    simp only [htime, iff_true]
    rcases hfields with h | ⟨hyear, h | ⟨hmonth, h⟩⟩
    · exact .inl h
    · exact .inr ⟨hyear, .inl h⟩
    · exact .inr ⟨hyear, .inr ⟨hmonth, .inl h⟩⟩
  · -- On one date the times of day decide.
    rw [heq]
    simp only [Nat.lt_irrefl, true_and, false_or]
    exact timeOfDay_lt heq
  · have hfields := hmore hgt
    have htime : ¬time.micros < boundary.micros := by
      have hfirst := time.first_day
      unfold date dayMicros at *
      omega
    simp only [htime, iff_false]
    omega

theorem isoformat_le (time boundary : Utc) :
    boundary.isoformat ≤ time.isoformat ↔ boundary ≤ time := by
  rw [← not_lt, isoformat_lt, lt_def, le_def, not_lt]

end Utc

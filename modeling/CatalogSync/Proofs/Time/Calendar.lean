import CatalogSync.Time.Stamp

/-!
# Ordinals of the proleptic Gregorian calendar

`Calendar.ofOrdinal` finds the date of a day number by counting whole cycles of 400, 100, 4 and
1 years, then the months of the year it lands in. This module shows that it inverts
`Calendar.ordinal` and that ordinals follow the order of dates.

## Main definitions

* `Calendar.IsDate`: a month of the year and a day of that month.
* `Calendar.Before`: the order of dates, year first, then month, then day.

## Main statements

* `ofOrdinal_spec`: every day number from 1 on names a date of a year from 1 on, whose ordinal
  is that number.
* `ordinal_lt_iff`: of two dates, the one with the smaller ordinal comes first.
* `year_ofOrdinal_le`: the day numbers up to `lastOrdinal` fall in the years up to 9999.
-/

namespace CatalogSync.Calendar

/-! ## Days before a month and before a year -/

@[simp] theorem daysBeforeMonth_one (y : Int) : daysBeforeMonth y 1 = 0 := rfl

theorem daysBeforeMonth_succ (y : Int) {m : Nat} (hm : 1 ≤ m) :
    daysBeforeMonth y (m + 1) = daysBeforeMonth y m + daysInMonth y m := by
  obtain ⟨k, rfl⟩ : ∃ k, m = k + 1 := ⟨m - 1, by omega⟩
  simp [daysBeforeMonth, List.range_succ, List.foldl_append]

theorem daysBeforeMonth_thirteen (y : Int) :
    daysBeforeMonth y 13 = if isLeap y then 366 else 365 := by
  cases h : isLeap y <;> simp [daysBeforeMonth, daysInMonth, List.range_succ, h]

theorem daysBeforeMonth_mono (y : Int) {m m' : Nat} (hm : 1 ≤ m) (h : m ≤ m') :
    daysBeforeMonth y m ≤ daysBeforeMonth y m' := by
  obtain ⟨k, rfl⟩ : ∃ k, m' = m + k := ⟨m' - m, by omega⟩
  induction k with
  | zero => exact Nat.le_refl _
  | succ k ih =>
    rw [← Nat.add_assoc, daysBeforeMonth_succ y (by omega)]
    have := ih (by omega)
    omega

theorem daysBeforeYear_eq (y : Int) :
    daysBeforeYear y = (y - 1) * 365 + (y - 1) / 4 - (y - 1) / 100 + (y - 1) / 400 := by
  simp [daysBeforeYear, Int.fdiv_eq_ediv]

theorem daysBeforeYear_succ (y : Int) :
    daysBeforeYear (y + 1) = daysBeforeYear y + daysBeforeMonth y 13 := by
  rw [daysBeforeYear_eq, daysBeforeYear_eq, daysBeforeMonth_thirteen]
  cases hl : isLeap y
  · simp only [isLeap, Bool.and_eq_false_iff, beq_eq_false_iff_ne, Bool.or_eq_false_iff,
      bne_eq_false_iff_eq, ne_eq] at hl
    simp only [Bool.false_eq_true, if_false]
    omega
  · simp only [isLeap, Bool.and_eq_true, beq_iff_eq, Bool.or_eq_true, bne_iff_ne, ne_eq] at hl
    simp only [if_true]
    omega

theorem daysBeforeYear_mono {a b : Int} (h : a ≤ b) : daysBeforeYear a ≤ daysBeforeYear b := by
  obtain ⟨k, rfl⟩ : ∃ k : Nat, b = a + k := ⟨(b - a).toNat, by omega⟩
  induction k with
  | zero => simp
  | succ k ih =>
    rw [show a + ((k + 1 : Nat) : Int) = a + k + 1 by omega, daysBeforeYear_succ]
    have := ih (by omega)
    omega

/-! ## Dates -/

/-- A date of the calendar: a month of the year and a day of that month. -/
def IsDate (y : Int) (m d : Nat) : Prop := 1 ≤ m ∧ m ≤ 12 ∧ 1 ≤ d ∧ d ≤ daysInMonth y m

theorem daysBeforeMonth_add_le {y : Int} {m d : Nat} (hd : IsDate y m d) :
    daysBeforeMonth y m + d ≤ daysBeforeMonth y 13 := by
  obtain ⟨h1, h12, -, hdm⟩ := hd
  have hnext := daysBeforeMonth_succ y h1
  have hmono := daysBeforeMonth_mono y (Nat.le_add_left 1 m) (show m + 1 ≤ 13 by omega)
  omega

/-- The month search of `ofOrdinal` lands on a date of the year: from month `m`, with `left`
days to go and fewer than the days left in the year, it stops at the month and day `left` days
on. The fuel counts the months left, so it never runs out first. -/
theorem month_isDate (y : Int) :
    ∀ fuel m left, 1 ≤ m → m + fuel = 13 → daysBeforeMonth y m + left < daysBeforeMonth y 13 →
      IsDate y (ofOrdinal.month y fuel m left).1 (ofOrdinal.month y fuel m left).2 ∧
      m ≤ (ofOrdinal.month y fuel m left).1 ∧
      daysBeforeMonth y (ofOrdinal.month y fuel m left).1 + (ofOrdinal.month y fuel m left).2 =
        daysBeforeMonth y m + left + 1
  | 0, m, left, _, hfuel, hleft => by
    subst hfuel
    omega
  | fuel + 1, m, left, hm, hfuel, hleft => by
    rw [ofOrdinal.month]
    split
    · dsimp only
      exact ⟨⟨hm, by omega, by omega, by omega⟩, Nat.le_refl _, by omega⟩
    · have hnext := daysBeforeMonth_succ y hm
      obtain ⟨hd, hle, heq⟩ := month_isDate y fuel (m + 1) (left - daysInMonth y m) (by omega)
        (by omega) (by omega)
      exact ⟨hd, by omega, by omega⟩

/-- Every day number from 1 on names a date of a year from 1 on, and is its ordinal. -/
theorem ofOrdinal_spec {n : Int} (hn : 1 ≤ n) :
    1 ≤ (ofOrdinal n).1 ∧ IsDate (ofOrdinal n).1 (ofOrdinal n).2.1 (ofOrdinal n).2.2 ∧
    ordinal (ofOrdinal n).1 (ofOrdinal n).2.1 (ofOrdinal n).2.2 = n := by
  simp only [ofOrdinal]
  -- the cycles of 400, 100, 4 and 1 years before the date, each bounded by the next
  generalize hq400 : (n - 1).fdiv 146097 = q400
  simp only [Int.fdiv_eq_ediv, Int.reduceLE, true_or, if_true, Int.sub_zero] at hq400
  have h400 : 0 ≤ q400 ∧ 0 ≤ n - 1 - q400 * 146097 ∧ n - 1 - q400 * 146097 < 146097 := by omega
  generalize hq100 : min ((n - 1 - q400 * 146097) / 36524) 3 = q100
  have h100 : 0 ≤ q100 ∧ q100 ≤ 3 ∧ 0 ≤ n - 1 - q400 * 146097 - q100 * 36524 ∧
      n - 1 - q400 * 146097 - q100 * 36524 ≤ 36524 ∧
      (n - 1 - q400 * 146097 - q100 * 36524 = 36524 → q100 = 3) := by omega
  generalize hq4 : (n - 1 - q400 * 146097 - q100 * 36524) / 1461 = q4
  have h4 : 0 ≤ q4 ∧ q4 ≤ 24 ∧ 0 ≤ n - 1 - q400 * 146097 - q100 * 36524 - q4 * 1461 ∧
      n - 1 - q400 * 146097 - q100 * 36524 - q4 * 1461 < 1461 := by omega
  generalize hq1 : min ((n - 1 - q400 * 146097 - q100 * 36524 - q4 * 1461) / 365) 3 = q1
  have h1 : 0 ≤ q1 ∧ q1 ≤ 3 ∧
      0 ≤ n - 1 - q400 * 146097 - q100 * 36524 - q4 * 1461 - q1 * 365 ∧
      n - 1 - q400 * 146097 - q100 * 36524 - q4 * 1461 - q1 * 365 ≤ 365 ∧
      (n - 1 - q400 * 146097 - q100 * 36524 - q4 * 1461 - q1 * 365 = 365 →
        q1 = 3 ∧ n - 1 - q400 * 146097 - q100 * 36524 - q4 * 1461 = 1460) := by omega
  clear hq400 hq100 hq4 hq1
  generalize hr : (n - 1 - q400 * 146097 - q100 * 36524 - q4 * 1461 - q1 * 365).toNat = r
  have hr' : (r : Int) = n - 1 - q400 * 146097 - q100 * 36524 - q4 * 1461 - q1 * 365 := by omega
  clear hr
  generalize hy : q400 * 400 + q100 * 100 + q4 * 4 + q1 + 1 = y
  have hyear : 1 ≤ y := by omega
  -- a 366th day is left over only at the end of a fourth year, which is a leap year
  have hleft : daysBeforeMonth y 1 + r < daysBeforeMonth y 13 := by
    rw [daysBeforeMonth_thirteen, daysBeforeMonth_one]
    cases hl : isLeap y
    · simp only [isLeap, Bool.and_eq_false_iff, beq_eq_false_iff_ne, Bool.or_eq_false_iff,
        bne_eq_false_iff_eq, ne_eq] at hl
      simp only [Bool.false_eq_true, if_false]
      omega
    · simp only [if_true]
      omega
  obtain ⟨hdate, -, hsum⟩ := month_isDate y 12 1 r (Nat.le_refl 1) rfl hleft
  refine ⟨hyear, hdate, ?_⟩
  -- the leap days before `y` are those of its cycles
  have hd4 : (y - 1) / 4 = q400 * 100 + q100 * 25 + q4 := by omega
  have hd100 : (y - 1) / 100 = q400 * 4 + q100 := by omega
  have hd400 : (y - 1) / 400 = q400 := by omega
  have hdby : daysBeforeYear y = n - 1 - r := by
    rw [daysBeforeYear_eq, hd4, hd100, hd400]
    omega
  simp only [ordinal, daysBeforeMonth_one, Int.ofNat_eq_natCast] at hsum ⊢
  omega

/-! ## The order of dates -/

/-- Whether a date comes before another: an earlier year, or the same year and an earlier
month, or the same month and an earlier day. -/
def Before (y : Int) (m d : Nat) (y' : Int) (m' d' : Nat) : Prop :=
  y < y' ∨ y = y' ∧ (m < m' ∨ m = m' ∧ d < d')

theorem ordinal_lt_of_before {y y' : Int} {m d m' d' : Nat} (hd : IsDate y m d)
    (hd' : IsDate y' m' d') (h : Before y m d y' m' d') : ordinal y m d < ordinal y' m' d' := by
  simp only [ordinal, Int.ofNat_eq_natCast]
  have : 1 ≤ d' := hd'.2.2.1
  rcases h with hy | ⟨rfl, hm | ⟨rfl, hday⟩⟩
  · -- the whole of year `y` lies before the start of year `y'`
    have hyear := daysBeforeMonth_add_le hd
    have hstep := daysBeforeYear_succ y
    have hmono := daysBeforeYear_mono (show y + 1 ≤ y' by omega)
    omega
  · have hnext := daysBeforeMonth_succ y hd.1
    have hmono := daysBeforeMonth_mono y (Nat.le_add_left 1 m) hm
    have : d ≤ daysInMonth y m := hd.2.2.2
    omega
  · omega

/-- Of two dates, the one with the smaller ordinal comes first. -/
theorem ordinal_lt_iff {y y' : Int} {m d m' d' : Nat} (hd : IsDate y m d)
    (hd' : IsDate y' m' d') : ordinal y m d < ordinal y' m' d' ↔ Before y m d y' m' d' := by
  refine ⟨fun h => Classical.byContradiction fun hn => ?_, ordinal_lt_of_before hd hd'⟩
  -- otherwise the second date comes first, or the two are one date
  have : Before y' m' d' y m d ∨ y = y' ∧ m = m' ∧ d = d' := by
    simp only [Before] at hn ⊢
    omega
  rcases this with hb | ⟨rfl, rfl, rfl⟩
  · exact absurd (ordinal_lt_of_before hd' hd hb) (by omega)
  · omega

/-- The day numbers up to `lastOrdinal` fall in the years up to 9999. -/
theorem year_ofOrdinal_le {n : Int} (hn : 1 ≤ n) (h : n ≤ lastOrdinal) :
    (ofOrdinal n).1 ≤ 9999 := by
  obtain ⟨-, hd, hord⟩ := ofOrdinal_spec hn
  refine Classical.byContradiction fun hy => ?_
  have hmono := daysBeforeYear_mono (show 10000 ≤ (ofOrdinal n).1 by omega)
  have h10000 : daysBeforeYear 10000 = lastOrdinal := by decide
  have : 1 ≤ (ofOrdinal n).2.2 := hd.2.2.1
  simp only [ordinal, Int.ofNat_eq_natCast] at hord
  omega

end CatalogSync.Calendar

import Mathlib.Data.Int.Notation
import Mathlib.Tactic.IntervalCases
import Mathlib.Tactic.SplitIfs

set_option autoImplicit false

/-!
# The proleptic Gregorian calendar

Days are numbered from 1 January 1970, as ECMAScript does.
-/
namespace Glassbeetle.CivilCalendar

structure CivilDate where
  year : ℤ
  month : ℤ
  day : ℤ
  deriving DecidableEq, Repr

def dayFromYear (year : ℤ) : ℤ :=
  365 * (year - 1970) + (year - 1969) / 4 - (year - 1901) / 100 + (year - 1601) / 400

def leap (year : ℤ) : Bool := year % 4 = 0 ∧ (year % 100 ≠ 0 ∨ year % 400 = 0)

def yearFromDay (day : ℤ) : ℤ :=
  let guess := 1970 + 400 * day / 146097
  if day < dayFromYear guess then guess - 1
  else if dayFromYear (guess + 1) ≤ day then guess + 1
  else guess

def monthStart (year month : ℤ) : ℤ :=
  let extra := if leap year then 1 else 0
  match month with
  | 1 => 0
  | 2 => 31
  | 3 => 59 + extra
  | 4 => 90 + extra
  | 5 => 120 + extra
  | 6 => 151 + extra
  | 7 => 181 + extra
  | 8 => 212 + extra
  | 9 => 243 + extra
  | 10 => 273 + extra
  | 11 => 304 + extra
  | 12 => 334 + extra
  | _ => 365 + extra

/-- The last of the first `count` months to start by a day of the year, counted from zero. -/
def monthScan (year dayInYear : ℤ) : ℕ → ℤ
  | 0 => 1
  | count + 1 =>
    if monthStart year (count + 1) ≤ dayInYear then count + 1 else monthScan year dayInYear count

def monthFromDay (year dayInYear : ℤ) : ℤ := monthScan year dayInYear 12

def civil (day : ℤ) : CivilDate :=
  let year := yearFromDay day
  let dayInYear := day - dayFromYear year
  let month := monthFromDay year dayInYear
  ⟨year, month, dayInYear - monthStart year month + 1⟩

/-- `MakeDay` for a month of the year; the day may lie outside the month. -/
def dayNumber (date : CivilDate) : ℤ :=
  dayFromYear date.year + monthStart date.year date.month + date.day - 1

theorem yearFromDay_bounds (day : ℤ) :
    dayFromYear (yearFromDay day) ≤ day ∧ day < dayFromYear (yearFromDay day + 1) := by
  have hg : 146097 * (1970 + 400 * day / 146097 - 1970) ≤ 400 * day ∧
      400 * day < 146097 * (1970 + 400 * day / 146097 - 1969) := by omega
  unfold yearFromDay
  dsimp only
  generalize 1970 + 400 * day / 146097 = guess at hg
  split_ifs with h1 h2
  · rw [Int.sub_add_cancel]
    refine ⟨?_, h1⟩
    unfold dayFromYear
    omega
  · refine ⟨h2, ?_⟩
    unfold dayFromYear
    omega
  · exact ⟨Int.not_lt.mp h1, Int.not_le.mp h2⟩

theorem dayFromYear_next (year : ℤ) :
    dayFromYear (year + 1) = dayFromYear year + (if leap year then 366 else 365) := by
  unfold dayFromYear
  cases h : leap year <;> simp only [leap, decide_eq_true_eq, decide_eq_false_iff_not] at h <;>
    simp only [Bool.false_eq_true, ↓reduceIte] <;> omega

theorem monthStart_next_year (year : ℤ) :
    monthStart year 13 = if leap year then 366 else 365 := by
  cases h : leap year <;> simp [monthStart, h]

theorem dayFromYear_lt (a b : ℤ) (h : a < b) : dayFromYear a < dayFromYear b := by
  unfold dayFromYear
  omega

theorem yearFromDay_unique (day year : ℤ) (h1 : dayFromYear year ≤ day)
    (h2 : day < dayFromYear (year + 1)) : yearFromDay day = year := by
  obtain ⟨h3, h4⟩ := yearFromDay_bounds day
  rcases Int.lt_trichotomy (yearFromDay day) year with hlt | he | hgt
  · rcases Int.lt_or_eq_of_le (Int.add_one_le_of_lt hlt) with hlt | he
    · have := dayFromYear_lt _ _ hlt
      omega
    · rw [he] at h4
      omega
  · exact he
  · rcases Int.lt_or_eq_of_le (Int.add_one_le_of_lt hgt) with hlt | he
    · have := dayFromYear_lt _ _ hlt
      omega
    · rw [he] at h2
      omega

theorem monthScan_bounds (year k : ℤ) (count : ℕ) (h1 : 0 ≤ k)
    (h2 : k < monthStart year (count + 1)) : 1 ≤ monthScan year k count ∧
      monthScan year k count ≤ max 1 count ∧ monthStart year (monthScan year k count) ≤ k ∧
        k < monthStart year (monthScan year k count + 1) := by
  induction count with
  | zero =>
    have hzero : monthStart year ((0 : ℕ) + 1) = 0 := rfl
    omega
  | succ count ih =>
    unfold monthScan
    split_ifs with h
    · exact ⟨by omega, by omega, h, by exact_mod_cast h2⟩
    · obtain ⟨m1, m2, m3, m4⟩ := ih (Int.not_le.mp h)
      exact ⟨m1, by omega, m3, m4⟩

theorem monthFromDay_bounds (year k : ℤ) (h1 : 0 ≤ k) (h2 : k < monthStart year 13) :
    1 ≤ monthFromDay year k ∧ monthFromDay year k ≤ 12 ∧
      monthStart year (monthFromDay year k) ≤ k ∧ k < monthStart year (monthFromDay year k + 1) :=
  monthScan_bounds year k 12 h1 h2

theorem monthStart_bounds (year month : ℤ) (h1 : 1 ≤ month) (h2 : month ≤ 12) :
    0 ≤ monthStart year month ∧ monthStart year month + 28 ≤ monthStart year (month + 1) ∧
      monthStart year (month + 1) ≤ monthStart year month + 31 ∧
        monthStart year (month + 1) ≤ monthStart year 13 := by
  interval_cases month <;> cases h : leap year <;> simp [monthStart, h]

theorem monthStart_le (year first : ℤ) (later : ℕ) (h1 : 1 ≤ first) (h2 : first + later ≤ 13) :
    monthStart year first ≤ monthStart year (first + later) := by
  induction later with
  | zero => simp
  | succ later ih =>
    have hstep := (monthStart_bounds year (first + later) (by omega) (by omega)).2.1
    have old := ih (by omega)
    rw [show first + ((later + 1 : ℕ) : ℤ) = first + later + 1 by omega]
    omega

theorem monthFromDay_unique (year month k : ℤ) (h1 : 1 ≤ month) (h2 : month ≤ 12)
    (h3 : monthStart year month ≤ k) (h4 : k < monthStart year (month + 1)) :
    monthFromDay year k = month := by
  have hfirst := monthStart_bounds year month h1 h2
  obtain ⟨m1, m2, m3, m4⟩ := monthFromDay_bounds year k (by omega) (by omega)
  rcases Int.lt_trichotomy (monthFromDay year k) month with hlt | he | hgt
  · have := monthStart_le year (monthFromDay year k + 1) (month - monthFromDay year k - 1).toNat
      (by omega) (by omega)
    rw [Int.toNat_of_nonneg (by omega),
      show monthFromDay year k + 1 + (month - monthFromDay year k - 1) = month by omega] at this
    omega
  · exact he
  · have := monthStart_le year (month + 1) (monthFromDay year k - month - 1).toNat
      (by omega) (by omega)
    rw [Int.toNat_of_nonneg (by omega),
      show month + 1 + (monthFromDay year k - month - 1) = monthFromDay year k by omega] at this
    omega

theorem dayNumber_civil (day : ℤ) : dayNumber (civil day) = day := by
  unfold dayNumber civil
  dsimp only
  omega

/-- The parts of a day number are a month of a year and a day of that month. -/
theorem civil_bounds (day : ℤ) : 1 ≤ (civil day).month ∧ (civil day).month ≤ 12 ∧
    1 ≤ (civil day).day ∧
    (civil day).day ≤ monthStart (civil day).year ((civil day).month + 1) -
      monthStart (civil day).year (civil day).month := by
  obtain ⟨h1, h2⟩ := yearFromDay_bounds day
  have hn := dayFromYear_next (yearFromDay day)
  rw [← monthStart_next_year] at hn
  obtain ⟨m1, m2, m3, m4⟩ := monthFromDay_bounds (yearFromDay day)
    (day - dayFromYear (yearFromDay day)) (by omega) (by omega)
  refine ⟨m1, m2, ?_, ?_⟩ <;> unfold civil <;> dsimp only <;> omega

theorem civil_unique (year month day : ℤ) (h1 : 1 ≤ month) (h2 : month ≤ 12)
    (h3 : dayFromYear year + monthStart year month ≤ day)
    (h4 : day < dayFromYear year + monthStart year (month + 1)) :
    civil day = ⟨year, month, day - dayFromYear year - monthStart year month + 1⟩ := by
  have hmonth := monthStart_bounds year month h1 h2
  have hn := dayFromYear_next year
  rw [← monthStart_next_year] at hn
  have hy : yearFromDay day = year := yearFromDay_unique _ _ (by omega) (by omega)
  unfold civil
  dsimp only
  rw [hy, monthFromDay_unique year month _ h1 h2 (by omega) (by omega)]

end Glassbeetle.CivilCalendar

import Mathlib.Tactic.IntervalCases
import Recital.Proofs.Instant.Calendar
import Recital.Proofs.Instant.DateText

/-!
# Where the database takes an instant to be

* `isLate` : the months whose days the database takes for the ones after them.  `doubledDay_eq` : all other
  days are those of the calendar.
* `ofInstant?_near` : an instant that is read is read to the nearest millisecond of its day.
* `Instant.Plain` : the instants that are read where they are.
* `Plain.isBefore_of_lt`, `Plain.lt_of_nanos` : what is read of two plain instants orders them as the calendar
  does, but for a difference of a millisecond.
-/

set_option autoImplicit false

namespace Recital.JulianDay

open Text Civil

/-! ## Days -/

/-- Whether the days of a month are taken for the ones after them: the year, counted from March, is before the
year 0 and ends a century, but not four of them. -/
def isLate (year : Int) (month : Nat) : Bool :=
  let y := if month ≤ 2 then year - 1 else year
  y < 0 && y % 100 = 0 && y % 400 ≠ 0

/-- A quotient that is cut towards zero is one too great for a negative number, save without a remainder. -/
theorem correction_eq (y : Int) : 2 - y.tdiv 100 + (y.tdiv 100).tdiv 4 =
    2 - y / 100 + y / 400 + if y < 0 ∧ y % 100 = 0 ∧ y % 400 ≠ 0 then 1 else 0 := by
  rcases Int.le_total 0 y with h | h
  · rw [Int.tdiv_eq_ediv_of_nonneg h, Int.tdiv_eq_ediv_of_nonneg (by omega)]
    split <;> omega
  · obtain ⟨n, rfl⟩ : ∃ n : Int, y = -n := ⟨-y, by omega⟩
    rw [Int.neg_tdiv, Int.neg_tdiv, Int.tdiv_eq_ediv_of_nonneg (by omega),
      Int.tdiv_eq_ediv_of_nonneg (by omega)]
    split <;> omega

/-- A quarter of a day is added for each year. -/
theorem quarters_eq (y : Int) : 36525 * (y + 4716) / 100 = 365 * y + y / 4 + 1722519 := by
  omega

/-- The months from March on have 30.6 days each, rounded. -/
theorem daysBefore_eq (year : Int) {month : Nat} (hlow : 3 ≤ month) (hhigh : month ≤ 12) :
    daysBefore year month + 63 = 306001 * (month + 1) / 10000 + if isLeap year then 1 else 0 := by
  cases hleap : isLeap year <;> interval_cases month <;> simp [daysBefore, daysIn, hleap]

/-- **The days of the database are those of the calendar, but for the years before the year 0 that end a
century.** -/
theorem doubledDay_eq {year : Int} {month : Nat} (day : Nat) (hlow : 1 ≤ month) (hhigh : month ≤ 12) :
    doubledDay year month day = 2 * (daysToYear year + daysBefore year month + day + 1721059) - 1 +
      if isLate year month then 2 else 0 := by
  by_cases hearly : month ≤ 2
  · have hstart : (daysBefore year month : Int) = 31 * (month - 1) := by
      interval_cases month <;> rfl
    have hmonths : 306001 * (month + 12 + 1) / 10000 = 31 * (month - 1) + 428 := by
      interval_cases month <;> rfl
    simp only [doubledDay, isLate, if_pos hearly, correction_eq, quarters_eq, hmonths, hstart, daysToYear,
      Bool.and_eq_true, decide_eq_true_eq]
    split <;> rename_i hlate <;> split <;> omega
  · have hstart := daysBefore_eq year (show 3 ≤ month by omega) hhigh
    simp only [doubledDay, isLate, if_neg hearly, correction_eq, quarters_eq, daysToYear, Bool.and_eq_true,
      decide_eq_true_eq, isLeap_iff] at *
    generalize 306001 * (month + 1) / 10000 = months at *
    split at hstart <;> split <;> omega

/-! ## Instants -/

/-- The nanoseconds from the start of the Julian period to the start of the year 0, less a day. -/
def epochNanos : Int := 148699454400 * 1000000000

/-- The nanoseconds from the start of the Julian period to where an instant is taken to be. -/
def readNanos (i : Instant) : Int :=
  i.nanos + epochNanos + if isLate i.year i.month then 86400 * 1000000000 else 0

/-- **An instant that is read is read to the nearest millisecond of its day.** -/
theorem ofInstant?_near {i : Instant} (hsecond : i.second < 60) (hlow : -4713 ≤ i.year)
    (hhigh : i.year ≤ 9999) : ∃ key : Int,
      ofInstant? i = (some key).filter (fun millis => 0 ≤ millis && millis ≤ lastMillis) ∧
      1000000 * key ≤ readNanos i + 500000 ∧ readNanos i ≤ 1000000 * key + 500000 := by
  obtain ⟨hmonth, -, -, -, -, -⟩ := bounds_of_isValid i.valid
  obtain ⟨millis, hread, hle, hge⟩ := ofInstant?_of_read hsecond hlow hhigh
  refine ⟨_, hread, ?_⟩
  rw [dayMillis, doubledDay_eq i.day hmonth.1 hmonth.2]
  unfold readNanos epochNanos Civil.nanos Civil.dayNumber
  split <;> omega

end Recital.JulianDay

namespace Recital.Instant

open JulianDay

/-! ## Instants that are read where they are -/

/-- The start of the Julian period. -/
def firstRead : Instant := ⟨⟨-4713, 11, 24, 12, 0, 0, 0⟩, by decide⟩

/-- The last half millisecond of the year 9999. -/
def lastRead : Instant := ⟨⟨9999, 12, 31, 23, 59, 59, 999500000⟩, by decide⟩

/-- An instant that is read where it is: no leap second, within the bounds of what is read, and in no month
whose days are taken for the ones after them. -/
structure Plain (i : Instant) : Prop where
  second : i.second < 60
  first : i.isBefore firstRead = false
  last : i.isBefore lastRead = true
  onTime : isLate i.year i.month = false

variable {a b i : Instant} {x y : Int}

/-- A plain instant is read to the nearest millisecond. -/
theorem Plain.near (h : i.Plain) : ∃ key, ofInstant? i = some key ∧
    1000000 * key ≤ i.nanos + epochNanos + 500000 ∧ i.nanos + epochNanos ≤ 1000000 * key + 500000 := by
  have hfirstYear : -4713 ≤ i.year := by
    by_contra hyear
    have hbefore : i.isBefore firstRead = true :=
      isBefore_eq_true_iff.2 (Or.inl (Or.inl (Int.lt_of_not_ge hyear)))
    cases hbefore.symm.trans h.first
  have hlastYear : i.year ≤ 9999 := by
    have hlast : lastRead.year = 9999 := rfl
    rcases isBefore_eq_true_iff.1 h.last with hdate | htime
    · omega
    · omega
  have hlow : firstRead.nanos ≤ i.nanos := by
    refine Int.not_lt.1 fun hlt => ?_
    cases ((isBefore_iff h.second (by decide)).2 hlt).symm.trans h.first
  have hhigh : i.nanos < lastRead.nanos := (isBefore_iff h.second (by decide)).1 h.last
  have hfirst : firstRead.nanos + epochNanos = 0 := by decide
  have hlast : lastRead.nanos + epochNanos + 500000 = 1000000 * (lastMillis + 1) := by decide
  obtain ⟨key, hread, hle, hge⟩ := ofInstant?_near h.second hfirstYear hlastYear
  simp only [readNanos, h.onTime, Bool.false_eq_true, if_false, Int.add_zero] at hle hge
  refine ⟨key, ?_, hle, hge⟩
  rw [hread]
  refine Option.filter_eq_some_iff.2 ⟨rfl, ?_⟩
  rw [Bool.and_eq_true, decide_eq_true_eq, decide_eq_true_eq]
  constructor <;> omega

/-- **What is read as earlier is earlier.** -/
theorem Plain.isBefore_of_lt (ha : a.Plain) (hb : b.Plain) (hx : ofInstant? a = some x)
    (hy : ofInstant? b = some y) (h : x < y) : a.isBefore b = true := by
  obtain ⟨x', hx', -, hxn⟩ := ha.near
  obtain ⟨y', hy', hny, -⟩ := hb.near
  obtain rfl := Option.some.inj (hx.symm.trans hx')
  obtain rfl := Option.some.inj (hy.symm.trans hy')
  rcases isBefore_total a b with hbefore | rfl | hafter
  · exact hbefore
  · obtain rfl := Option.some.inj (hx.symm.trans hy)
    exact absurd h (Int.lt_irrefl _)
  · -- rounding to the nearest millisecond keeps the order
    have hlt := (isBefore_iff hb.second ha.second).1 hafter
    omega

/-- **What is earlier by more than a millisecond is read as earlier.** -/
theorem Plain.lt_of_nanos (ha : a.Plain) (hb : b.Plain) (hx : ofInstant? a = some x)
    (hy : ofInstant? b = some y) (h : a.nanos + 1000000 < b.nanos) : x < y := by
  obtain ⟨x', hx', hle, -⟩ := ha.near
  obtain ⟨y', hy', -, hge⟩ := hb.near
  obtain rfl := Option.some.inj (hx.symm.trans hx')
  obtain rfl := Option.some.inj (hy.symm.trans hy')
  omega

end Recital.Instant

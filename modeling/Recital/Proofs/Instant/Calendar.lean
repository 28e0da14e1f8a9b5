import Mathlib.Order.Defs.LinearOrder
import Mathlib.Data.List.Lex
import Recital.Proofs.Instant.Stored

/-!
# The calendar as a line of days

* `Civil.dayNumber` : the days from the start of the year 0 on.  `dayNumber_nextDay` : the next day is one
  further.
* `Civil.nanos` : the nanoseconds from there on, a day having 86400 seconds.
* `Instant.isBefore_iff` : of two instants that are no leap seconds, the earlier one has fewer of them.
-/

set_option autoImplicit false

namespace Recital

namespace Civil

variable {year : Int} {month : Nat} {c : Civil}

/-! ## Days -/

/-- The days of a year before a month. -/
def daysBefore (year : Int) : Nat → Nat
  | 0 => 0
  | 1 => 0
  | month + 2 => daysBefore year (month + 1) + daysIn year (month + 1)

/-- The days from the start of the year 0 to that of another year. -/
def daysToYear (year : Int) : Int :=
  365 * year + (year - 1) / 4 - (year - 1) / 100 + (year - 1) / 400 + 1

/-- The days from the start of the year 0 to the end of a day. -/
def dayNumber (c : Civil) : Int :=
  daysToYear c.year + daysBefore c.year c.month + c.day

/-- The nanoseconds from the start of the year 0 on, all days having as many, and one day more. -/
def nanos (c : Civil) : Int :=
  (((c.dayNumber * 24 + c.hour) * 60 + c.minute) * 60 + c.second) * 1000000000 + c.nano

theorem isLeap_iff : isLeap year = true ↔ year % 4 = 0 ∧ (year % 100 ≠ 0 ∨ year % 400 = 0) := by
  simp [isLeap]

theorem daysBefore_succ (h : 1 ≤ month) :
    daysBefore year (month + 1) = daysBefore year month + daysIn year month := by
  obtain ⟨m, rfl⟩ := Nat.exists_eq_add_of_le' h
  rfl

/-- A year has 365 days, or 366. -/
theorem daysToYear_succ (year : Int) :
    daysToYear (year + 1) = daysToYear year + daysBefore year 13 := by
  have hlength : daysBefore year 13 = if isLeap year then 366 else 365 := by
    simp only [daysBefore, daysIn]
    cases isLeap year <;> rfl
  simp only [hlength, daysToYear, isLeap_iff]
  split <;> omega

theorem day_le_daysIn (h : c.isValid = true) : c.day ≤ daysIn c.year c.month := by
  simp only [isValid, Bool.and_eq_true, decide_eq_true_eq] at h
  exact h.1.1.1.1.2

/-- **The next day is one further.** -/
theorem dayNumber_nextDay (h : c.isValid = true) : c.nextDay.dayNumber = c.dayNumber + 1 := by
  obtain ⟨hmonth, -, -, -, -, -⟩ := bounds_of_isValid h
  have hday := day_le_daysIn h
  unfold nextDay
  split
  · simp only [dayNumber]
    omega
  split
  · simp only [dayNumber, daysBefore_succ hmonth.1]
    omega
  · have htwelve : c.month = 12 := by omega
    have hlast : daysBefore c.year 13 = daysBefore c.year c.month + daysIn c.year c.month := by
      rw [htwelve]
      rfl
    have hfirst : daysBefore (c.year + 1) 1 = 0 := rfl
    simp only [dayNumber, daysToYear_succ, hlast, hfirst]
    omega

/-! ## Earlier days -/

/-- A month ends before a later one starts. -/
theorem daysBefore_add_daysIn_le {month' : Nat} (h : 1 ≤ month) (hlt : month < month') :
    daysBefore year month + daysIn year month ≤ daysBefore year month' := by
  induction month', hlt using Nat.le_induction with
  | base => rw [daysBefore_succ h]
  | succ m hm ih => rw [daysBefore_succ (by omega)]; omega

theorem daysToYear_mono {year' : Int} (h : year ≤ year') : daysToYear year ≤ daysToYear year' := by
  unfold daysToYear
  omega

variable {a b : Civil}

/-- A day of an earlier date has a lower number. -/
theorem dayNumber_lt (ha : a.isValid = true) (hb : b.isValid = true)
    (h : a.year < b.year ∨ a.year = b.year ∧ (a.month < b.month ∨ a.month = b.month ∧ a.day < b.day)) :
    a.dayNumber < b.dayNumber := by
  obtain ⟨hma, -, -, -, -, -⟩ := bounds_of_isValid ha
  obtain ⟨hmb, hdb, -, -, -, -⟩ := bounds_of_isValid hb
  have hday := day_le_daysIn ha
  unfold dayNumber
  rcases h with hyear | ⟨hyear, hmonth | ⟨hmonth, hlt⟩⟩
  · have hrest : daysBefore a.year a.month + daysIn a.year a.month ≤ daysBefore a.year 13 :=
      daysBefore_add_daysIn_le hma.1 (by omega)
    have hnext : daysToYear (a.year + 1) ≤ daysToYear b.year := daysToYear_mono hyear
    rw [daysToYear_succ] at hnext
    omega
  · have hrest : daysBefore a.year a.month + daysIn a.year a.month ≤ daysBefore a.year b.month :=
      daysBefore_add_daysIn_le hma.1 hmonth
    rw [← hyear]
    omega
  · rw [← hyear, ← hmonth]
    omega

end Civil

/-! ## Earlier instants -/

namespace Instant

variable {a b : Instant}

/-- The fields in which instants differ first decide which one is earlier. -/
theorem isBefore_eq_true_iff : a.isBefore b = true ↔
    (a.year < b.year ∨ a.year = b.year ∧ (a.month < b.month ∨ a.month = b.month ∧ a.day < b.day)) ∨
    (a.year = b.year ∧ a.month = b.month ∧ a.day = b.day) ∧
      (a.hour < b.hour ∨ a.hour = b.hour ∧ (a.minute < b.minute ∨ a.minute = b.minute ∧
        (a.second < b.second ∨ a.second = b.second ∧ a.nano < b.nano))) := by
  simp only [isBefore, key, decide_eq_true_eq, List.cons_lt_cons_iff, Int.ofNat_lt, Int.ofNat_inj,
    List.not_lt_nil, and_false, or_false]
  omega

/-- An earlier instant has fewer nanoseconds, unless only the earlier one is a leap second. -/
theorem nanos_lt (hleap : a.second < 60 ∨ b.second = 60) (h : a.isBefore b = true) :
    a.nanos < b.nanos := by
  obtain ⟨-, -, hha, hma, hsa, hna⟩ := Civil.bounds_of_isValid a.valid
  obtain ⟨-, -, hhb, hmb, -, hnb⟩ := Civil.bounds_of_isValid b.valid
  unfold Civil.nanos
  rcases isBefore_eq_true_iff.1 h with hdate | ⟨⟨hyear, hmonth, hday⟩, htime⟩
  · have hlt := Civil.dayNumber_lt a.valid b.valid hdate
    omega
  · have hsame : a.dayNumber = b.dayNumber := by
      simp only [Civil.dayNumber, hyear, hmonth, hday]
    rw [hsame]
    omega

/-- Of two different instants one is the earlier one. -/
theorem isBefore_total (a b : Instant) : a.isBefore b = true ∨ a = b ∨ b.isBefore a = true := by
  rw [isBefore_eq_true_iff, isBefore_eq_true_iff]
  have hfields : (a.year = b.year ∧ a.month = b.month ∧ a.day = b.day) ∧ a.hour = b.hour ∧
      a.minute = b.minute ∧ a.second = b.second ∧ a.nano = b.nano → a = b := by
    obtain ⟨⟨_, _, _, _, _, _, _⟩, _⟩ := a
    obtain ⟨⟨_, _, _, _, _, _, _⟩, _⟩ := b
    rintro ⟨⟨rfl, rfl, rfl⟩, rfl, rfl, rfl, rfl⟩
    rfl
  by_cases hsame : a = b
  · exact Or.inr (Or.inl hsame)
  · have hne := mt hfields hsame
    omega

/-- **Of two instants that are no leap seconds the earlier one has fewer nanoseconds.** -/
theorem isBefore_iff (ha : a.second < 60) (hb : b.second < 60) :
    a.isBefore b = true ↔ a.nanos < b.nanos := by
  refine ⟨nanos_lt (Or.inl ha), fun h => ?_⟩
  rcases isBefore_total a b with hbefore | rfl | hafter
  · exact hbefore
  · exact absurd h (Int.lt_irrefl _)
  · exact absurd h (Int.lt_asymm (nanos_lt (Or.inl hb) hafter))

end Instant

end Recital

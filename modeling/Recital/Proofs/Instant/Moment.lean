import Recital.Proofs.Instant.Calendar

/-!
# What a local time has to do with an instant

* `Civil.moment` : where a second stands that a clock shows, a leap second being told from the second after it.
* `Civil.nanos_shift` : a clock that is set forward by minutes shows as many nanoseconds more, over the ends of
  days, months and years.
* `Civil.moment_of_instant?` : the instant of a local time stands where that does.
* `Instant.moment_injective` : no two instants stand in one place.
-/

set_option autoImplicit false

namespace Recital

/-- A place in time: its nanoseconds from the start of the year 0 on, and whether it is in a leap second. -/
structure Moment where
  nanos : Int
  isLeap : Bool
  deriving DecidableEq, Repr

namespace Civil

variable {c d : Civil} {i : Instant} {ahead : Int}

/-- The nanoseconds of a minute. -/
def minuteNanos : Int := 60000000000

/-- Where a second stands that is shown by a clock which is `ahead` minutes ahead. -/
def moment (c : Civil) (ahead : Int) : Moment :=
  ⟨c.nanos - ahead * minuteNanos, c.second = 60⟩

/-! ## Clocks that are set forward -/

/-- The day before is one back. -/
theorem dayNumber_previousDay (h : c.isValid = true) : c.previousDay.dayNumber = c.dayNumber - 1 := by
  obtain ⟨hmonth, hday, -, -, -, -⟩ := bounds_of_isValid h
  unfold previousDay
  split
  · simp only [dayNumber]
    omega
  split
  · have hbefore : daysBefore c.year c.month =
        daysBefore c.year (c.month - 1) + daysIn c.year (c.month - 1) := by
      rw [← daysBefore_succ (by omega), Nat.sub_add_cancel hmonth.1]
    simp only [dayNumber, hbefore]
    omega
  · have hone : c.month = 1 := by omega
    have hnone : daysBefore c.year c.month = 0 := by rw [hone]; rfl
    have hyear := daysToYear_succ (c.year - 1)
    have hlast : daysBefore (c.year - 1) 13 = daysBefore (c.year - 1) 12 + 31 := rfl
    rw [Int.sub_add_cancel, hlast] at hyear
    simp only [dayNumber, hnone, hyear]
    omega

/-- The times of day are the same. -/
structure SameTime (c d : Civil) : Prop where
  hour : d.hour = c.hour
  minute : d.minute = c.minute
  second : d.second = c.second
  nano : d.nano = c.nano

theorem sameTime_nextDay (c : Civil) : c.SameTime c.nextDay := by
  unfold nextDay
  split
  · exact ⟨rfl, rfl, rfl, rfl⟩
  split <;> exact ⟨rfl, rfl, rfl, rfl⟩

theorem sameTime_previousDay (c : Civil) : c.SameTime c.previousDay := by
  unfold previousDay
  split
  · exact ⟨rfl, rfl, rfl, rfl⟩
  split <;> exact ⟨rfl, rfl, rfl, rfl⟩

/-- A minute of a day that is `days` further. -/
theorem nanos_atMinute (minutes days : Int) (htime : c.SameTime d) (hday : d.dayNumber = c.dayNumber + days)
    (hmoved : 0 ≤ c.minuteOfDay + minutes - days * 1440) :
    (d.atMinute (c.minuteOfDay + minutes - days * 1440)).nanos = c.nanos + minutes * minuteNanos := by
  have hsame : (d.atMinute (c.minuteOfDay + minutes - days * 1440)).dayNumber = c.dayNumber + days := hday
  unfold nanos
  rw [hsame]
  simp only [atMinute, minuteNanos, minuteOfDay, htime.second, htime.nano] at hmoved ⊢
  omega

/-- **A clock that is set forward shows as much more.** -/
theorem nanos_shift (minutes : Int) (h : c.isValid = true) (hminutes : minutes.natAbs < 1440) :
    (c.shift minutes).nanos = c.nanos + minutes * minuteNanos := by
  obtain ⟨-, -, hhour, hminute, -, -⟩ := bounds_of_isValid h
  have hbounds : 0 ≤ c.minuteOfDay ∧ c.minuteOfDay < 1440 := by
    simp only [minuteOfDay]
    omega
  unfold shift
  simp only
  split
  · have hback := nanos_atMinute minutes (-1) c.sameTime_previousDay (dayNumber_previousDay h) (by omega)
    rwa [Int.neg_mul, Int.sub_neg, Int.one_mul] at hback
  split
  · have hsame := nanos_atMinute (d := c) minutes 0 ⟨rfl, rfl, rfl, rfl⟩ (Int.add_zero _).symm (by omega)
    rwa [Int.zero_mul, Int.sub_zero] at hsame
  · have hnext := nanos_atMinute minutes 1 c.sameTime_nextDay (dayNumber_nextDay h) (by omega)
    rwa [Int.one_mul] at hnext

/-- Seconds and what is below them are the same everywhere. -/
theorem second_shift (c : Civil) (minutes : Int) : (c.shift minutes).second = c.second := by
  unfold shift
  simp only
  split
  · exact c.sameTime_previousDay.second
  split
  · rfl
  · exact c.sameTime_nextDay.second

/-! ## Instants of local times -/

theorem toCivil_of_toInstant? (h : c.toInstant? = some i) : i.toCivil = c := by
  unfold toInstant? at h
  split at h
  · rw [← Option.some.inj h]
  · cases h

/-- **The instant of a local time stands where that does.** -/
theorem moment_of_instant? (h : c.instant? ahead = some i) : i.moment 0 = c.moment ahead := by
  unfold instant? at h
  split at h
  · rename_i hvalid
    have hshift := toCivil_of_toInstant? h
    have hnanos := nanos_shift (-ahead) hvalid.1 (by omega)
    unfold moment
    rw [hshift, hnanos, second_shift, Int.zero_mul, Int.sub_zero, Int.neg_mul, Int.sub_eq_add_neg]
  · cases h

end Civil

/-- **No two instants stand in one place.** -/
theorem Instant.moment_injective {a b : Instant} (h : a.moment 0 = b.moment 0) : a = b := by
  obtain ⟨-, -, -, -, ha, -⟩ := Civil.bounds_of_isValid a.valid
  obtain ⟨-, -, -, -, hb, -⟩ := Civil.bounds_of_isValid b.valid
  simp only [Civil.moment, Moment.mk.injEq, decide_eq_decide, Int.zero_mul, Int.sub_zero] at h
  obtain ⟨hnanos, hleap⟩ := h
  rcases isBefore_total a b with hbefore | hsame | hafter
  · exact absurd hnanos (Int.ne_of_lt (nanos_lt (by omega) hbefore))
  · exact hsame
  · exact absurd hnanos.symm (Int.ne_of_lt (nanos_lt (by omega) hafter))

end Recital

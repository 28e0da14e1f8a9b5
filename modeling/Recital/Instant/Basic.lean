/-!
# Instants

An instant is a second of the proleptic Gregorian calendar in Coordinated Universal Time, cut into
nanoseconds.  Any minute may have a leap second, which is its second 60.

* `Civil` : the fields of a calendar date and a time of day; `Civil.isValid` : they name a second.
* `Instant` : valid fields, read in Coordinated Universal Time.
* `Civil.shift` : the fields of the same second on a clock set forward by less than a day.
* `Civil.instant?` : the instant of local fields on a clock ahead by less than a day.
* `Instant.isBefore` : chronological order, a leap second lying between its neighbours.
-/

set_option autoImplicit false

namespace Recital

/-- The fields of a calendar date and a time of day. -/
structure Civil where
  year : Int
  month : Nat
  day : Nat
  hour : Nat
  minute : Nat
  second : Nat
  nano : Nat
  deriving DecidableEq, Repr, Inhabited

namespace Civil

/-- Every fourth year is a leap year, of the hundreds only every fourth. -/
def isLeap (year : Int) : Bool :=
  year % 4 = 0 && (year % 100 ≠ 0 || year % 400 = 0)

/-- The number of days of a month. -/
def daysIn (year : Int) (month : Nat) : Nat :=
  if month = 2 then (if isLeap year then 29 else 28)
  else if month = 4 ∨ month = 6 ∨ month = 9 ∨ month = 11 then 30
  else 31

/-- The first year that an instant can have. -/
def firstYear : Int := -262143

/-- The last year that an instant can have. -/
def lastYear : Int := 262142

/-- Whether the fields name a second of a year in range. -/
def isValid (c : Civil) : Bool :=
  firstYear ≤ c.year && c.year ≤ lastYear && 1 ≤ c.month && c.month ≤ 12 && 1 ≤ c.day &&
    c.day ≤ daysIn c.year c.month && c.hour ≤ 23 && c.minute ≤ 59 && c.second ≤ 60 &&
    c.nano < 1000000000

/-- The same time on the next day. -/
def nextDay (c : Civil) : Civil :=
  if c.day < daysIn c.year c.month then { c with day := c.day + 1 }
  else if c.month < 12 then { c with month := c.month + 1, day := 1 }
  else { c with year := c.year + 1, month := 1, day := 1 }

/-- The same time on the day before. -/
def previousDay (c : Civil) : Civil :=
  if 1 < c.day then { c with day := c.day - 1 }
  else if 1 < c.month then { c with month := c.month - 1, day := daysIn c.year (c.month - 1) }
  else { c with year := c.year - 1, month := 12, day := 31 }

/-- The minute of the day. -/
def minuteOfDay (c : Civil) : Int :=
  c.hour * 60 + c.minute

/-- The same day at another minute. -/
def atMinute (c : Civil) (minute : Int) : Civil :=
  { c with hour := (minute / 60).toNat, minute := (minute % 60).toNat }

/-- The fields that a clock set forward by `minutes` shows, for less than a day of minutes. -/
def shift (c : Civil) (minutes : Int) : Civil :=
  let moved := c.minuteOfDay + minutes
  if moved < 0 then c.previousDay.atMinute (moved + 1440)
  else if moved < 1440 then c.atMinute moved
  else c.nextDay.atMinute (moved - 1440)

end Civil

/-- A second in Coordinated Universal Time, cut into nanoseconds. -/
structure Instant extends Civil where
  valid : toCivil.isValid = true
  deriving DecidableEq, Repr

namespace Civil

/-- The instant that the fields name in Coordinated Universal Time. -/
def toInstant? (c : Civil) : Option Instant :=
  if h : c.isValid = true then some ⟨c, h⟩ else none

/-- The instant that the fields name on a clock that is `offset` minutes ahead, which must be less than
a day. -/
def instant? (c : Civil) (offset : Int) : Option Instant :=
  if c.isValid ∧ offset.natAbs < 1440 then (c.shift (-offset)).toInstant? else none

end Civil

namespace Instant

/-- The fields in the order in which two instants are compared. -/
def key (i : Instant) : List Int :=
  [i.year, i.month, i.day, i.hour, i.minute, i.second, i.nano]

/-- Chronological order. -/
def isBefore (a b : Instant) : Bool :=
  a.key < b.key

end Instant

end Recital

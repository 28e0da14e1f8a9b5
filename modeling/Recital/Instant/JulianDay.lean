import Recital.Instant.Format
import Recital.Text.Decimal

/-!
# Julian days of stored dates

The database compares dates by their distance from the start of the Julian period, in whole
milliseconds.  It reads more texts as dates than are dates here:

* `date?` : a date with an optional time of day and zone;
* `timeOnly?` : a time of day, on the first day of the year 2000;
* `isCurrent` : the words for the current moment;
* `dayNumber?` : a number of days from the start of the period.

`julianMillis?` tries them in this order.  It reads no date above the year 9999 or before the period,
no leap second, and none that rounds past the last millisecond of the year 9999.  Fractions are
computed step by step, each step keeping 53 significant bits.
-/

set_option autoImplicit false

namespace Recital.JulianDay

open Recital.Text

/-- The blanks that may stand between the parts of a date. -/
def isGap (c : Char) : Bool :=
  c = ' ' || ('\t' ≤ c && c ≤ '\r')

/-- The days from the start of the period to noon of a date, doubled and less one: twice the
distance to the midnight before.  Quotients are cut towards zero, so that the century turns a year late
before the year 0. -/
def doubledDay (year : Int) (month day : Nat) : Int :=
  let (y, m) := if month ≤ 2 then (year - 1, month + 12) else (year, month)
  let century := y.tdiv 100
  let correction := 2 - century + century.tdiv 4
  2 * (36525 * (y + 4716) / 100 + (306001 * (m + 1) / 10000 : Nat) + day + correction) - 3049

/-- A whole number of which some digits have been read, with one more of them. -/
def appendDigit (value : Ratio) (c : Char) : Ratio :=
  (((value.mul (.ofNat 10)).rounded.add (.ofNat c.toNat)).rounded.sub (.ofNat '0'.toNat)).rounded

/-- Ten times as much. -/
def tenfold (value : Ratio) : Ratio :=
  (value.mul (.ofNat 10)).rounded

/-- The value of the digits after a point.  Nothing is left of it where the power of ten is beyond
range, and there is none where the digits themselves are. -/
def fractionOf? (digits : List Char) : Option Ratio :=
  let number := digits.foldl appendDigit (.ofNat 0)
  let scale := digits.foldl (fun scale _ => tenfold scale) (.ofNat 1)
  if scale.exceedsRange then (if number.exceedsRange then none else some (.ofNat 0))
  else some (number.div scale).rounded

/-- Seconds in milliseconds, rounding half up. -/
def secondMillis (seconds : Ratio) : Nat :=
  ((seconds.mul (.ofNat 1000)).rounded.add ⟨1, 2⟩).rounded.floor

/-- The digits after a point, if a digit follows the point. -/
def fractionDigits : List Char → List Char × List Char
  | '.' :: cs =>
    let digits := cs.takeWhile isDigit
    if digits = [] then ([], '.' :: cs) else (digits, cs.drop digits.length)
  | cs => ([], cs)

/-- The zone at the end of a date, in minutes. -/
def zone (cs : List Char) : Option Int :=
  let offset (sign : Int) (cs : List Char) : Option Int := do
    let (hours, cs) ← field? 2 0 14 cs
    let cs ← mark? ':' cs
    let (minutes, cs) ← field? 2 0 59 cs
    if cs.all isGap then some (sign * (60 * hours + minutes : Nat)) else none
  match cs.dropWhile isGap with
  | [] => some 0
  | '+' :: rest => offset 1 rest
  | '-' :: rest => offset (-1) rest
  | 'Z' :: rest => if rest.all isGap then some 0 else none
  | 'z' :: rest => if rest.all isGap then some 0 else none
  | _ => none

/-- A time of day as it is read: the milliseconds of hours, minutes and zone, and the seconds, if they
have a value. -/
structure Clock where
  millis : Int
  seconds : Option Ratio

/-- The milliseconds of a time of day less its zone, if its seconds have a value. -/
def Clock.total? (clock : Clock) : Option Int :=
  clock.seconds.map fun seconds => clock.millis + secondMillis seconds

/-- A time of day up to the end of the text. -/
def clock? (cs : List Char) : Option Clock := do
  let (hour, cs) ← field? 2 0 24 cs
  let cs ← mark? ':' cs
  let (minute, cs) ← field? 2 0 59 cs
  let (second, digits, cs) ← match cs with
    | ':' :: rest => (field? 2 0 59 rest).map fun (s, rest) =>
        let (digits, rest) := fractionDigits rest
        (s, digits, rest)
    | _ => some (0, [], cs)
  let ahead ← zone cs
  some ⟨(hour * 3600000 + minute * 60000 : Nat) - ahead * 60000,
    (fractionOf? digits).map fun fraction => ((Ratio.ofNat second).add fraction).rounded⟩

/-- The milliseconds to the midnight before a day. -/
def dayMillis (year : Int) (month day : Nat) : Int :=
  doubledDay year month day * 43200000

/-- A date with an optional time of day: nothing if the text has another form, and no milliseconds if
it is before the period. -/
def date? (cs : List Char) : Option (Option Int) := do
  let (sign, cs) := match cs with
    | '-' :: rest => ((-1 : Int), rest)
    | cs => (1, cs)
  let (year, cs) ← field? 4 0 9999 cs
  let cs ← mark? '-' cs
  let (month, cs) ← field? 2 1 12 cs
  let cs ← mark? '-' cs
  let (day, cs) ← field? 2 1 31 cs
  let cs := cs.dropWhile fun c => isGap c || c = 'T'
  let clock ← if cs = [] then some ⟨0, some (.ofNat 0)⟩ else clock? cs
  let year := sign * (year : Int)
  some (if year < -4713 then none else clock.total?.map (dayMillis year month day + ·))

/-- A time of day, on the first day of the year 2000. -/
def timeOnly? (cs : List Char) : Option (Option Int) :=
  (clock? cs).map fun clock => clock.total?.map (dayMillis 2000 1 1 + ·)

/-- Whether a text is a word for the current moment. -/
def isCurrent (cs : List Char) : Bool :=
  let word := String.ofList (cs.map Char.toLower)
  word = "now" || word = "subsec" || word = "subsecond"

/-- A number of days, blanks around it allowed.  Those below zero and those after the year 9999 are no
dates. -/
def dayNumber? (cs : List Char) : Option Int := do
  let (negative, cs) := sign (cs.dropWhile isGap)
  let (number, cs) ← Decimal.scan? cs
  let days := number.ratio.rounded
  if cs.all isGap ∧ (negative → days.vanishes) ∧ days.less ⟨10746969, 2⟩ then
    some ((days.mul (.ofNat 86400000)).rounded.add ⟨1, 2⟩).rounded.floor
  else none

/-- The last millisecond of the year 9999. -/
def lastMillis : Int := 464269060799999

/-- The milliseconds from the start of the Julian period to the date that a text writes, up to its
first NUL, where `current` is the current moment. -/
def julianMillis? (current : Option Int) (s : String) : Option Int :=
  let cs := s.toList.takeWhile fun c => c ≠ '\x00'
  let millis := match (date? cs).orElse fun () => timeOnly? cs with
    | some millis => millis
    | none => if isCurrent cs then current else dayNumber? cs
  millis.filter fun millis => 0 ≤ millis && millis ≤ lastMillis

/-- The milliseconds from the start of the Julian period to an instant, as the database reads it. -/
def ofInstant? (i : Instant) : Option Int :=
  julianMillis? none i.stored

end Recital.JulianDay

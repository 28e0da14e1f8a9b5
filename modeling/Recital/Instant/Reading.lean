import Recital.Instant.Basic
import Recital.Text.Blank
import Recital.Text.Scanner

/-!
# Reading instants

* `Instant.read?` : the relaxed form that clients write.  Month, day, hour, minute and second may
  have one digit, white space may stand before every number and every separator but the one between
  date and time, which is `T`, `t` or a space; seconds are required; the zone is `Z`, `z`, `UTC` or
  an offset of hours and minutes below a day.
* `Instant.strict?` : the form whose fields have their full width, with seconds and a zone.
* `Instant.ofStored?` : the forms accepted in a column of the database: the strict one, and a looser one
  where seconds and zone may be missing and an offset counts only if it gives an instant.

All are chains of scanners.
-/

set_option autoImplicit false

namespace Recital.Instant

open Recital.Text

/-- At least one digit, and at most `width` of them. -/
def number (width : Nat) : Scanner Nat := fun cs =>
  let digits := (cs.take width).takeWhile isDigit
  if digits = [] then none else some (naturalOf digits, cs.drop digits.length)

/-- At least one digit, and all that follow. -/
def longNumber : Scanner Nat := fun cs =>
  number cs.length cs

/-- A year: up to four digits, or a sign and any number of digits. -/
def yearNumber : Scanner Int
  | '-' :: cs => (longNumber cs).map fun (n, rest) => (-(n : Int), rest)
  | '+' :: cs => (longNumber cs).map fun (n, rest) => ((n : Int), rest)
  | cs => (number 4 cs).map fun (n, rest) => ((n : Int), rest)

/-- A fraction of a second after its point: at least one digit, the first nine of which count. -/
def fraction : Scanner Nat := fun cs =>
  match number 9 cs with
  | none => none
  | some (n, rest) => some (n * Nat.pow 10 (9 - (cs.length - rest.length)), rest.dropWhile isDigit)

/-- An optional point and fraction. -/
def optionalFraction : Scanner Nat
  | '.' :: cs => fraction cs
  | cs => some (0, cs)

/-- Two digits. -/
def twoDigits : Scanner Nat
  | a :: b :: cs =>
    match digitValue? a, digitValue? b with
    | some x, some y => some (10 * x + y, cs)
    | _, _ => none
  | _ => none

/-- The sign of an offset, as a factor.  The typographic minus sign counts. -/
def offsetSign : Scanner Int
  | '+' :: cs => some (1, cs)
  | '-' :: cs => some (-1, cs)
  | '\u2212' :: cs => some (-1, cs)
  | _ => none

/-- An offset in minutes: a sign, two digits of hours, any run of colons and white space, and two
digits of minutes below sixty. -/
def offset : Scanner Int := fun cs => do
  let (sign, cs) ← offsetSign cs
  let (hours, cs) ← twoDigits cs
  let (minutes, cs) ← twoDigits (cs.dropWhile fun c => c = ':' || isWhiteSpace c)
  if minutes ≤ 59 then some (sign * (60 * hours + minutes : Nat), cs) else none

/-- A zone as clients write it, in minutes. -/
def zone : Scanner Int := fun cs =>
  if (cs.take 3).map Char.toUpper = ['U', 'T', 'C'] then some (0, cs.drop 3)
  else match cs with
    | 'Z' :: rest => some (0, rest)
    | 'z' :: rest => some (0, rest)
    | _ => offset cs

/-- A date in the relaxed form. -/
def relaxedDate : Scanner (Int × Nat × Nat) := fun cs => do
  let (year, cs) ← yearNumber (trimStart cs)
  let cs ← mark? '-' (trimStart cs)
  let (month, cs) ← number 2 (trimStart cs)
  let cs ← mark? '-' (trimStart cs)
  let (day, cs) ← number 2 (trimStart cs)
  some ((year, month, day), cs)

/-- A time of day in the relaxed form: hour, minute, second and nanosecond. -/
def relaxedTime : Scanner (Nat × Nat × Nat × Nat) := fun cs => do
  let (hour, cs) ← number 2 (trimStart cs)
  let cs ← mark? ':' (trimStart cs)
  let (minute, cs) ← number 2 (trimStart cs)
  let cs ← mark? ':' (trimStart cs)
  let (second, cs) ← number 2 (trimStart cs)
  let (nano, cs) ← optionalFraction cs
  some ((hour, minute, second, nano), cs)

/-- What may stand between date and time. -/
def separator : List Char → Option (List Char)
  | 'T' :: cs => some cs
  | 't' :: cs => some cs
  | ' ' :: cs => some cs
  | _ => none

/-- The instant that a text in the relaxed form names. -/
def read? (s : String) : Option Instant := do
  let ((year, month, day), cs) ← relaxedDate s.toList
  let cs ← separator cs
  let ((hour, minute, second, nano), cs) ← relaxedTime cs
  let (ahead, cs) ← zone (trimStart cs)
  if trimStart cs = [] then
    Civil.instant? ⟨year, month, day, hour, minute, second, nano⟩ ahead
  else none

/-- The zone of the strict form, up to the end of the text, in minutes. -/
def strictZone : List Char → Option Int
  | ['Z'] => some 0
  | ['z'] => some 0
  | c :: cs => do
    let sign ← if c = '+' then some (1 : Int) else if c = '-' then some (-1) else none
    let (hours, cs) ← field? 2 0 23 cs
    let cs ← mark? ':' cs
    let (minutes, cs) ← field? 2 0 59 cs
    if cs = [] then some (sign * (60 * hours + minutes : Nat)) else none
  | [] => none

/-- The instant that a text in the strict form names. -/
def strict? (s : String) : Option Instant := do
  let (year, cs) ← field? 4 0 9999 s.toList
  let cs ← mark? '-' cs
  let (month, cs) ← field? 2 1 12 cs
  let cs ← mark? '-' cs
  let (day, cs) ← field? 2 1 31 cs
  let cs ← separator cs
  let (hour, cs) ← field? 2 0 23 cs
  let cs ← mark? ':' cs
  let (minute, cs) ← field? 2 0 59 cs
  let cs ← mark? ':' cs
  let (second, cs) ← field? 2 0 60 cs
  let (nano, cs) ← optionalFraction cs
  let ahead ← strictZone cs
  Civil.instant? ⟨year, month, day, hour, minute, second, nano⟩ ahead

/-- A date in a column: white space may stand before each number only. -/
def storedDate : Scanner (Int × Nat × Nat) := fun cs => do
  let (year, cs) ← yearNumber (trimStart cs)
  let cs ← mark? '-' cs
  let (month, cs) ← number 2 (trimStart cs)
  let cs ← mark? '-' cs
  let (day, cs) ← number 2 (trimStart cs)
  some ((year, month, day), cs)

/-- The seconds of a time of day in a column, which may be missing. -/
def storedSeconds : Scanner (Nat × Nat)
  | ':' :: cs => do
    let (second, cs) ← number 2 (trimStart cs)
    let (nano, cs) ← optionalFraction cs
    some ((second, nano), cs)
  | cs => some ((0, 0), cs)

/-- A time of day in a column. -/
def storedTime : Scanner (Nat × Nat × Nat × Nat) := fun cs => do
  let (hour, cs) ← number 2 (trimStart cs)
  let cs ← mark? ':' cs
  let (minute, cs) ← number 2 (trimStart cs)
  let ((second, nano), cs) ← storedSeconds cs
  some ((hour, minute, second, nano), cs)

/-- The zone of a column, up to its end, in minutes. -/
def storedZone : List Char → Option Int
  | [] => some 0
  | ['Z'] => some 0
  | cs => match offset (trimStart cs) with
    | some (ahead, []) => some ahead
    | _ => none

/-- The instant that a text in the looser form names: that of its fields at its offset, or else, if its
offset is no part of a day or leads out of the years in range, that of its fields without an offset. -/
def loose? (s : String) : Option Instant := do
  let ((year, month, day), cs) ← storedDate s.toList
  let cs := match cs with
    | 'T' :: rest => rest
    | _ => trimStart cs
  let ((hour, minute, second, nano), cs) ← storedTime cs
  let ahead ← storedZone cs
  let civil : Civil := ⟨year, month, day, hour, minute, second, nano⟩
  (civil.instant? ahead).orElse fun () => civil.toInstant?

/-- The instant that the text of a column names. -/
def ofStored? (s : String) : Option Instant :=
  (strict? s).orElse fun () => loose? s

end Recital.Instant

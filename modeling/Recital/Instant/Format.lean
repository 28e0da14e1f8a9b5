import Recital.Instant.Basic
import Recital.Text.Integer

/-!
# Written forms of an instant

* `Instant.canonical` : year, month and day, the letter T, the time of day and the letter Z.  The
  fraction has the fewest of 0, 3, 6 or 9 digits that show it exactly; a year outside 0 to 9999
  carries its sign and at least four digits.
* `Instant.stored` : the same with the offset `+00:00`, as the database keeps it.
-/

set_option autoImplicit false

namespace Recital.Instant

open Recital.Text

/-- Four digits, or a sign and at least four digits outside the years 0 to 9999. -/
def yearText (year : Int) : List Char :=
  if 0 ≤ year ∧ year ≤ 9999 then padded 4 year.toNat
  else if year < 0 then '-' :: padded 4 year.natAbs
  else '+' :: padded 4 year.natAbs

/-- The shortest exact fraction of 0, 3, 6 or 9 digits. -/
def fractionText (nano : Nat) : List Char :=
  if nano = 0 then []
  else if nano % 1000000 = 0 then '.' :: padded 3 (nano / 1000000)
  else if nano % 1000 = 0 then '.' :: padded 6 (nano / 1000)
  else '.' :: padded 9 nano

/-- The fields without an offset. -/
def civilText (c : Civil) : List Char :=
  yearText c.year ++ '-' :: padded 2 c.month ++ '-' :: padded 2 c.day ++
    'T' :: padded 2 c.hour ++ ':' :: padded 2 c.minute ++ ':' :: padded 2 c.second ++
    fractionText c.nano

/-- The canonical form, which ends in Z. -/
def canonical (i : Instant) : String :=
  String.ofList (civilText i.toCivil ++ ['Z'])

/-- The form that the database keeps, which ends in a numeric offset. -/
def stored (i : Instant) : String :=
  String.ofList (civilText i.toCivil ++ ['+', '0', '0', ':', '0', '0'])

end Recital.Instant

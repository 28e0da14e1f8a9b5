import Recital.Binary64
import Recital.Text.Integer

/-!
# JSON numerals

* `Numeral` : a number as it is written: sign, whole part, fraction and exponent.
* `Numeral.integer?` : its value if it is written as an integer; `-0` is not.
* `Numeral.isOutOfRange` : whether it is beyond every binary floating point number of double width,
  as found by reading it with a 64-bit significand.
-/

set_option autoImplicit false

namespace Recital.Json

open Recital.Text

/-- A number as it is written.  The exponent has a sign and digits. -/
structure Numeral where
  negative : Bool
  whole : List Char
  fraction : Option (List Char)
  exponent : Option (Bool × List Char)
  deriving DecidableEq, Repr, Inhabited

namespace Numeral

/-- The value of a numeral without fraction and exponent, negative zero excepted. -/
def integer? (n : Numeral) : Option Int :=
  match n.fraction, n.exponent with
  | none, none =>
    let size := naturalOf n.whole
    if n.negative then (if size = 0 then none else some (-(size : Int))) else some size
  | _, _ => none

/-- The greatest significand that is read exactly. -/
def maxSignificand : Nat := 18446744073709551615

/-- Reads the digits of the whole part into a significand, as long as they fit; every digit left
out counts as a power of ten. -/
def wholeSignificand (significand : Nat) : List Char → Nat × Nat
  | [] => (significand, 0)
  | c :: cs =>
    let next := significand * 10 + (digitValue? c).getD 0
    if next ≤ maxSignificand then wholeSignificand next cs else (significand, cs.length + 1)

/-- Reads the digits of the fraction into the significand, as long as they fit: the significand,
and the number of digits read. -/
def fractionSignificand (significand : Nat) : List Char → Nat × Nat
  | [] => (significand, 0)
  | c :: cs =>
    let next := significand * 10 + (digitValue? c).getD 0
    if next ≤ maxSignificand then
      let (read, places) := fractionSignificand next cs
      (read, places + 1)
    else (significand, 0)

/-- The significand and the power of ten of a numeral. -/
def parts (n : Numeral) : Nat × Int :=
  let (significand, powers) := wholeSignificand 0 n.whole
  let (significand, places) := fractionSignificand significand (n.fraction.getD [])
  let power := match n.exponent with
    | none => (0 : Int)
    | some (negative, digits) =>
      if negative then -(naturalOf digits : Int) else (naturalOf digits : Int)
  (significand, (powers : Int) - places + power)

/-- Whether the numeral is beyond every finite number: its significand and its power of ten, each
rounded to 53 bits, have a rounded product of at least `2 ^ 1024`. -/
def isOutOfRange (n : Numeral) : Bool :=
  let (significand, power) := n.parts
  if significand = 0 ∨ power < 0 then false
  else if 308 < power then true
  else
    let scale := (Ratio.ofNat (Nat.pow 10 power.toNat)).rounded
    ((Ratio.ofNat significand).rounded.mul scale).rounded.exceedsRange

/-- The text of a numeral. -/
def chars (n : Numeral) : List Char :=
  (if n.negative then ['-'] else []) ++ n.whole ++
    (match n.fraction with
      | none => []
      | some digits => '.' :: digits) ++
    (match n.exponent with
      | none => []
      | some (negative, digits) => 'e' :: (if negative then ['-'] else []) ++ digits)

end Numeral

end Recital.Json
